import BuildLog.Pattern.Reader
import BuildLog.Proofs.Scan

/-! Reading a pattern symbol by symbol. What is told is what each symbol makes of the state and what
it leaves. -/
namespace BuildLog.Pattern

theorem textOf_chars (text : List Char) : textOf (text.map .char) = String.ofList text := by
  rw [textOf, List.flatMap_map]
  exact congrArg String.ofList (List.flatMap_singleton' text)

theorem textUntil_outcome {terminator : Char} (what : String) {text : List Char}
    (inside : terminator ∉ text) (filled : text ≠ []) (rest : List Token) :
    (textUntil terminator what).outcome (text.map .char ++ .char terminator :: rest) =
      .ok (String.ofList text, rest) := by
  let ahead : List Token := text.map .char ++ .char terminator :: rest
  have others : ∀ t ∈ text.map Token.char, (t != .char terminator) = true := by
    intro t member
    obtain ⟨c, among, rfl⟩ := List.mem_map.mp member
    exact bne_iff_ne.mpr fun same => inside (Token.char.inj same ▸ among)
  have taken : ahead.takeWhile (· != .char terminator) = text.map .char := by
    rw [List.takeWhile_append_of_pos others]
    simp
  have left : ahead.dropWhile (· != .char terminator) = .char terminator :: rest := by
    rw [List.dropWhile_append_of_pos others]
    simp
  have run :
      (Scan.takeWhile (fun t => t != .char terminator) : TokenScan (List Token)).outcome ahead =
        .ok (text.map .char, .char terminator :: rest) := by
    rw [← left, ← taken]
    rfl
  rw [textUntil, Scan.outcome_bind, run]
  dsimp only
  rw [textOf_chars, Scan.outcome_bind]
  change Scan.outcome (if (String.ofList text).isEmpty then _ else _) rest = _
  rw [if_neg (by simpa using filled)]
  rfl

variable [Host]

theorem read_eq (text : String) :
    read text =
      match readTokens.outcome (tokens text.toList).1 with
      | .error s => .error (s.toError text.toList (tokens text.toList).2)
      | .ok (st, _) =>
        if (tokens text.toList).2 then .error (Stop.toError text.toList true (.other .tooDeep true))
        else .ok ⟨text, st.level.node, st.widths.size, st.names.reverse⟩ := by
  unfold read Scan.outcome
  dsimp only
  cases readTokens (tokens text.toList).1 <;> rfl

theorem exists_of_read {text : String} {p : Pattern} (valid : read text = .ok p) :
    ∃ st rest, readTokens.outcome (tokens text.toList).1 = .ok (st, rest) ∧
      (tokens text.toList).2 = false ∧
      p = ⟨text, st.level.node, st.widths.size, st.names.reverse⟩ := by
  rw [read_eq] at valid
  split at valid
  · cases valid
  next st rest done =>
    split at valid
    · cases valid
    next complete =>
      cases valid
      exact ⟨st, rest, done, by simpa using complete, rfl⟩

def resume (st : State) : TokenScan State :=
  Scan.loop (fun st t => do return .inl (← st.step t)) State.finish st

theorem resume_nil (st : State) : (resume st).outcome [] = st.finish.outcome [] :=
  Scan.loop_nil _ _ st

theorem resume_cons {st next : State} {t : Token} {s rest : List Token}
    (stepped : (st.step t).outcome s = .ok (next, rest)) :
    (resume st).outcome (t :: s) = (resume next).outcome rest := by
  refine Scan.loop_cons ?_ State.finish
  rw [Scan.outcome_bind, stepped]
  rfl

theorem resume_error {st : State} {t : Token} {s : List Token} {e : Stop}
    (failed : (st.step t).outcome s = .error e) : (resume st).outcome (t :: s) = .error e := by
  refine Scan.loop_error ?_ State.finish
  rw [Scan.outcome_bind, failed]

/-- An escape by name stands for the character that the host knows by it. -/
theorem step_named {name : List Char} {c : Char}
    (known : Host.charNamed? (String.ofList name) = some c) (filled : name ≠ []) (st : State)
    (rest : List Token) :
    (st.step (.escape 'N')).outcome (.char '\x7b' :: (name.map .char ++ .char '\x7d' :: rest)) =
      .ok (st.pushCode c.toNat, rest) := by
  have inside : '\x7d' ∉ name := by
    intro among
    have letters := Host.spelled known
    rw [String.toList_ofList, List.all_eq_true] at letters
    exact Bool.false_ne_true (letters '\x7d' among)
  have named : namedEscape.outcome (.char '\x7b' :: (name.map .char ++ .char '\x7d' :: rest)) =
      .ok (c.toNat, rest) := by
    rw [namedEscape, Scan.outcome_bind]
    change (textUntil '\x7d' "character name" >>= _).outcome
      (name.map .char ++ .char '\x7d' :: rest) = _
    rw [Scan.outcome_bind, textUntil_outcome _ inside filled]
    dsimp only
    rw [known]
    rfl
  change (namedEscape >>= fun n => pure (st.pushCode n)).outcome _ = _
  rw [Scan.outcome_bind, named]
  rfl

end BuildLog.Pattern
