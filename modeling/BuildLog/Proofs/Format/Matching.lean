import BuildLog.Proofs.Format.Findings
import BuildLog.Proofs.Format.Overlong
import Mathlib.Data.List.Forall2

/-! Logs read with a pattern in two ways. One keeps the lines in which the pattern is not found,
unless they are blank, the other passes them over; apart from that they tell the same, with other
numbers. A log in which the pattern is nowhere found is not recognised, and both say so in a
summary at the end. -/
namespace BuildLog

open Text

def renumbered (id : Int) : List Event → List Event
  | [] => []
  | e :: rest => { e with id } :: renumbered (id + 1) rest

theorem renumbered_kinds (id : Int) (events : List Event) :
    (renumbered id events).map (·.kind) = events.map (·.kind) := by
  induction events generalizing id with
  | nil => rfl
  | cons e rest ih => simp [renumbered, ih]

theorem exists_of_mem_renumbered {id : Int} {events : List Event} {e : Event}
    (member : e ∈ renumbered id events) : ∃ known ∈ events, known.kind = e.kind := by
  have kind : e.kind ∈ (renumbered id events).map (·.kind) := List.mem_map_of_mem member
  rw [renumbered_kinds] at kind
  exact List.mem_map.mp kind

namespace Format.AdHoc

/-- The line has an event where unread lines are kept. -/
def isTold (p : Pattern) (line : Line) : Bool := p.finds line.text || !isBlankText line.text

/-- What the event tells of the line: the match in it, or that there is none. -/
inductive Tells (p : Pattern) (e : Event) (line : Line) : Prop
  | found {m : Pattern.Match} {id : Int} (here : p.search line.text = some m)
      (made : eventOf (p.captures m) m.whole line id = pure e)
  | missed {id : Int} (nowhere : p.finds line.text = false) (kept : e = unread line id)

@[simp] theorem unread_kind (line : Line) (id : Int) : (unread line id).kind = .unknown := rfl

theorem eventOf_kind {captures : Attributes} {whole : String} {line : Line} {id : Int} {e : Event}
    (made : eventOf captures whole line id = pure e) : e.kind = .lintIssue := by
  obtain ⟨row, -, done⟩ := Run.returns_bind (Run.returns_of_eq made)
  obtain ⟨column, -, done⟩ := Run.returns_bind done
  rw [← Run.returns_pure.mp done]

/-- An event depends on its number in its number alone. -/
theorem eventOf_renumber (captures : Attributes) (whole : String) (line : Line) (id other : Int) :
    eventOf captures whole line other =
      (fun e : Event => { e with id := other }) <$> eventOf captures whole line id := by
  simp only [eventOf, map_bind, map_pure]

theorem Tells.kind {p : Pattern} {e : Event} {line : Line} (tells : Tells p e line) :
    e.kind = if p.finds line.text then .lintIssue else .unknown := by
  cases tells with
  | found here made =>
    rw [eventOf_kind made, Pattern.finds, here]
    rfl
  | missed nowhere kept =>
    rw [kept, nowhere]
    rfl

/-- The two ways side by side: what the first keeps besides is told apart by its kind. -/
theorem eventsFrom_modes {p : Pattern} {lines : List Line}
    (searched : ∀ line ∈ lines, p.searchWithin Line.defaultLimit line.text = p.search line.text)
    (id : Int) : ∃ kept, eventsFrom p true id lines = pure kept ∧
      List.Forall₂ (Tells p) kept (lines.filter (isTold p)) ∧
      ∀ id, eventsFrom p false id lines =
        pure (renumbered id (kept.filter (·.kind != .unknown))) := by
  induction lines generalizing id with
  | nil => exact ⟨[], rfl, .nil, fun _ => rfl⟩
  | cons line rest ih =>
    have others := ih fun line member => searched line (by simp [member])
    have here := searched line (by simp)
    cases found : p.search line.text with
    | some m =>
      rw [found] at here
      obtain ⟨e, made⟩ := eventOf_answers here line id
      have kind : e.kind ≠ .unknown := by simp [eventOf_kind made]
      have again (other : Int) :
          eventOf (p.captures m) m.whole line other = pure { e with id := other } := by
        rw [eventOf_renumber _ _ _ id other, made, map_pure]
      obtain ⟨kept, read, tells, alone⟩ := others (id + 1)
      have finds : p.finds line.text = true := by simp [Pattern.finds, found]
      refine ⟨e :: kept, ?_, ?_, fun other => ?_⟩
      · simp [eventsFrom, here, made, read]
      · rw [List.filter_cons, if_pos (by simp [isTold, finds])]
        exact .cons (.found found made) tells
      · simp [eventsFrom, here, again, alone, kind, renumbered]
    | none =>
      rw [found] at here
      have finds : p.finds line.text = false := by simp [Pattern.finds, found]
      cases blank : isBlankText line.text with
      | true =>
        obtain ⟨kept, read, tells, alone⟩ := others id
        refine ⟨kept, ?_, ?_, fun id => ?_⟩
        · simp [eventsFrom, here, blank, read]
        · rw [List.filter_cons, if_neg (by simp [isTold, finds, blank])]
          exact tells
        · simp [eventsFrom, here, alone]
      | false =>
        obtain ⟨kept, read, tells, alone⟩ := others (id + 1)
        refine ⟨unread line id :: kept, ?_, ?_, fun id => ?_⟩
        · simp [eventsFrom, here, blank, read]
        · rw [List.filter_cons, if_pos (by simp [isTold, blank])]
          exact .cons (.missed finds rfl) tells
        · simp [eventsFrom, here, alone]

theorem Tells.kind_ne_summary {p : Pattern} {e : Event} {line : Line} (tells : Tells p e line) :
    e.kind ≠ .summary := by
  rw [tells.kind]
  split <;> decide

theorem kind_ne_summary {p : Pattern} {lines : List Line} {told : List Event}
    (tells : List.Forall₂ (Tells p) told lines) : ∀ e ∈ told, e.kind ≠ .summary := by
  induction tells with
  | nil => simp
  | cons first _ ih => exact List.forall_mem_cons.mpr ⟨first.kind_ne_summary, ih⟩

/-- All that is told is unread exactly if the pattern is found in no line. -/
theorem all_unknown {p : Pattern} {lines : List Line} {told : List Event}
    (tells : List.Forall₂ (Tells p) told (lines.filter (isTold p))) :
    told.all (·.kind == .unknown) = !lines.any fun line => p.finds line.text := by
  have pointwise : told.all (·.kind == .unknown) =
      (lines.filter (isTold p)).all fun line => !p.finds line.text := by
    generalize lines.filter (isTold p) = those at tells
    induction tells with
    | nil => rfl
    | cons first _ ih =>
      rw [List.all_cons, List.all_cons, ih, first.kind]
      split
      next found => simp [found]
      next missed => simp [missed]
  rw [pointwise, List.all_filter, List.not_any_eq_all_not]
  congr 1
  funext line
  cases found : p.finds line.text <;> simp [isTold, found]

def closed (pattern : String) (events : List Event) : List Event :=
  if events.all (·.kind == .unknown) then events ++ [noMatch pattern (events.length + 1)]
  else events

/-- There is something told. A summary is told under the condition only, and then nothing behind
it and no other one. -/
structure IsClosed (silent : Prop) (events : List Event) : Prop where
  filled : events ≠ []
  summary_iff : (∃ e ∈ events, e.kind = .summary) ↔ silent
  last : ∀ e ∈ events.dropLast, e.kind ≠ .summary

theorem closed_isClosed (pattern : String) {events : List Event}
    (plain : ∀ e ∈ events, e.kind ≠ .summary) :
    IsClosed (events.all (·.kind == .unknown) = true) (closed pattern events) := by
  unfold closed
  split
  next silent =>
    refine ⟨by simp, iff_of_true ⟨_, List.mem_append_right _ List.mem_cons_self, rfl⟩ silent, ?_⟩
    rwa [List.dropLast_concat]
  next found =>
    refine ⟨?_, iff_of_false ?_ found, fun e member => plain e (List.dropLast_subset _ member)⟩
    · rintro rfl
      exact found rfl
    · rintro ⟨e, member, summary⟩
      exact plain e member summary

theorem closed_cases (pattern : String) (events : List Event) :
    closed pattern events = events ∨
      ∃ summary : Event, summary.kind = .summary ∧ closed pattern events = events ++ [summary] := by
  unfold closed
  split
  · exact .inr ⟨_, rfl, rfl⟩
  · exact .inl rfl

theorem renumbered_kind_ne_summary {events : List Event} (plain : ∀ e ∈ events, e.kind ≠ .summary)
    (id : Int) : ∀ e ∈ renumbered id (events.filter (·.kind != .unknown)), e.kind ≠ .summary := by
  intro e member
  obtain ⟨known, inside, kind⟩ := exists_of_mem_renumbered member
  exact kind ▸ plain known (List.mem_of_mem_filter inside)

/-- Without what is unread nothing is left exactly if all of it is unread. -/
theorem all_unknown_renumbered (events : List Event) :
    (renumbered 1 (events.filter (·.kind != .unknown))).all (·.kind == .unknown) =
      events.all (·.kind == .unknown) := by
  have byKind (l : List Event) :
      l.all (·.kind == .unknown) = (l.map (·.kind)).all (· == .unknown) := by
    rw [List.all_map]
    rfl
  rw [byKind, renumbered_kinds, ← byKind, List.all_filter]
  congr 1
  funext e
  simp

/-- What is not unread, numbered anew, is closed as the whole is. -/
theorem closed_renumbered (pattern : String) (events : List Event) :
    closed pattern (renumbered 1 (events.filter (·.kind != .unknown))) =
      renumbered 1 ((closed pattern events).filter (·.kind != .unknown)) := by
  rw [closed, all_unknown_renumbered, closed]
  split
  next silent =>
    have none : events.filter (·.kind != .unknown) = [] := by simpa using silent
    simp [none, renumbered, noMatch]
  next => rfl

/-- A line with the pattern and a summary exclude each other. -/
theorem IsClosed.any_finds_iff {p : Pattern} {lines : List Line} {result : List Event}
    (isClosed : IsClosed (∀ line ∈ lines, p.finds line.text = false) result) :
    (lines.any fun line => p.finds line.text) = true ↔ ¬∃ e ∈ result, e.kind = .summary := by
  rw [isClosed.summary_iff]
  simp

theorem compiled_of_compile [Host] {pattern : String} {p : Pattern}
    (compiles : (Pattern.compile pattern).Ends (.ok p)) : (compiled pattern).Ends (.ok (.ok p)) :=
  compiles.attempt.bind_ok (Run.ends_pure _)

theorem compiled_of_fault [Host] {pattern : String} {m : ConfigError}
    (refused : (Pattern.compile pattern).Ends (.error (.config m))) :
    (compiled pattern).Ends (.ok (.error m)) :=
  refused.attempt.bind_ok (Run.ends_pure _)

theorem parse_ends [Host] {pattern : String} {p : Pattern} {keepUnread : Bool} {content : String}
    {events : List Event} (compiles : (Pattern.compile pattern).Ends (.ok p))
    (read : eventsFrom p keepUnread 1 (Line.read Line.defaultLimit content) = pure events) :
    (parse pattern keepUnread content).Ends (.ok (closed pattern events)) := by
  refine (compiled_of_compile compiles).bind_ok ?_
  dsimp only
  rw [read, pure_bind]
  exact Run.ends_pure _

/-- The log is recognised if and only if the pattern is found in a line. -/
theorem accepts_ends [Host] {pattern : String} {p : Pattern}
    (compiles : (Pattern.compile pattern).Ends (.ok p)) (content : String) :
    (accepts pattern content).Ends
      (.ok ((Line.read Line.defaultLimit content).any fun line => p.finds line.text)) := by
  have same : ((Line.read Line.defaultLimit content).any fun line =>
        (p.searchWithin Line.defaultLimit line.text).isSome) =
      (Line.read Line.defaultLimit content).any fun line => p.finds line.text := by
    rw [Bool.eq_iff_iff, List.any_eq_true, List.any_eq_true]
    refine exists_congr fun line => and_congr_right fun member => ?_
    rw [p.searchWithin_of_delivered member, Pattern.finds]
  rw [← same]
  exact (compiled_of_compile compiles).bind_ok (Run.ends_pure _)

/-- A log is read alike in both ways, whatever was told before. With unread lines kept, each line in
which the pattern is found and each other line that is not blank has one event, in the order of the
lines, and there is nothing else but perhaps a summary. Without them the result is what is not
unread of that, numbered anew. Where the pattern is found in no line a summary closes either
result, and the log is recognised exactly if there is none. A faulty pattern recognises nothing,
and what is read with it is a summary of the fault. -/
theorem parse_modes [Host] (pattern content : String) :
    let lines := Line.read Line.defaultLimit content
    (∀ p, (Pattern.compile pattern).Ends (.ok p) →
      ∃ told kept plain : List Event, ∃ accepted : Bool,
        (parse pattern true content).Ends (.ok kept) ∧
        (parse pattern false content).Ends (.ok plain) ∧
        (accepts pattern content).Ends (.ok accepted) ∧
        List.Forall₂ (Tells p) told (lines.filter (isTold p)) ∧
        (kept = told ∨ ∃ summary : Event, summary.kind = .summary ∧ kept = told ++ [summary]) ∧
        plain = renumbered 1 (kept.filter (·.kind != .unknown)) ∧
        ∀ result ∈ [kept, plain],
          IsClosed (∀ line ∈ lines, p.finds line.text = false) result ∧
          (accepted = true ↔ ¬∃ e ∈ result, e.kind = .summary)) ∧
    ∀ m, (Pattern.compile pattern).Ends (.error (.config m)) →
      (accepts pattern content).Ends (.ok false) ∧
      ∀ keepUnread, ∃ summary : Event, summary.kind = .summary ∧
        (parse pattern keepUnread content).Ends (.ok [summary]) := by
  intro lines
  refine ⟨fun p compiles => ?_, fun m refused => ?_⟩
  · have searched : ∀ line ∈ lines, p.searchWithin Line.defaultLimit line.text =
        p.search line.text := fun line member => p.searchWithin_of_delivered member
    obtain ⟨told, read, tells, alone⟩ := eventsFrom_modes searched 1
    have silent : told.all (·.kind == .unknown) = true ↔
        ∀ line ∈ lines, p.finds line.text = false := by simp [all_unknown tells]
    have plain := kind_ne_summary tells
    have keptClosed := closed_isClosed pattern plain
    have plainClosed := closed_isClosed pattern (renumbered_kind_ne_summary plain 1)
    rw [silent] at keptClosed
    rw [all_unknown_renumbered, silent] at plainClosed
    refine ⟨told, _, _, _, parse_ends compiles read, parse_ends compiles (alone 1),
      accepts_ends compiles content, tells, closed_cases pattern told,
      closed_renumbered pattern told, ?_⟩
    simp only [List.forall_mem_cons, List.not_mem_nil, false_imp_iff, implies_true, and_true]
    exact ⟨⟨keptClosed, keptClosed.any_finds_iff⟩, plainClosed, plainClosed.any_finds_iff⟩
  · have ends := compiled_of_fault refused
    refine ⟨ends.bind_ok (Run.ends_pure _), fun keepUnread => ⟨rejected pattern m, rfl, ?_⟩⟩
    exact ends.bind_ok (Run.ends_pure _)

/-- A group that is not closed is no pattern. -/
theorem compile_unclosed : (Pattern.compile "(").Ends
    (.error (.config (.badPattern "(" ⟨.unterminatedGroup, some ⟨0, 1, 1⟩, false⟩))) := by
  have read : Pattern.read (String.ofList (Pattern.expandAlias "(".toList)) =
      .error (.fault ⟨.unterminatedGroup, some ⟨0, 1, 1⟩, false⟩) := by cbv
  have calm : Pattern.isRisky (String.ofList (Pattern.expandAlias "(".toList)) = false := by cbv
  simp only [Pattern.compile, calm, read]
  exact fun told => ⟨told, rfl⟩

/-- A line with the letter, a blank one and one without it; and a group that is not closed. -/
theorem parse_modes_letter :
    (∃ kept plain : List Event,
      (parse "x" true "ax\n \nb").Ends (.ok kept) ∧ (parse "x" false "ax\n \nb").Ends (.ok plain) ∧
      kept.map (·.kind) = [.lintIssue, .unknown] ∧ plain.map (·.kind) = [.lintIssue]) ∧
    (accepts "x" "ax\n \nb").Ends (.ok true) ∧ (accepts "(" "(").Ends (.ok false) := by
  have compiles : (Pattern.compile "x").Ends (.ok letter) := compile_letter ▸ Run.ends_pure letter
  have first : letter.finds "ax" = true := by decide +kernel
  have third : letter.finds "b" = false := by decide +kernel
  have shown : (Line.read Line.defaultLimit "ax\n \nb").filter (isTold letter) =
      [⟨1, "ax", false⟩, ⟨3, "b", false⟩] := by cbv
  obtain ⟨told, kept, plain, accepted, keeps, reads, accepts, tells, closing, alone, both⟩ :=
    (parse_modes "x" "ax\n \nb").1 letter compiles
  have isFound : ¬∀ line ∈ Line.read Line.defaultLimit "ax\n \nb",
      letter.finds line.text = false := by
    intro nowhere
    have member : ⟨1, "ax", false⟩ ∈ (Line.read Line.defaultLimit "ax\n \nb").filter
        (isTold letter) := by simp [shown]
    rw [nowhere _ (List.mem_of_mem_filter member)] at first
    cases first
  have unclosed := (both kept (by simp)).1.summary_iff.not.mpr isFound
  have whole : kept = told := by
    rcases closing with same | ⟨summary, kind, rfl⟩
    · exact same
    · exact absurd ⟨summary, by simp, kind⟩ unclosed
  have kinds : kept.map (·.kind) = [.lintIssue, .unknown] := by
    rw [shown] at tells
    rw [whole]
    cases tells with
    | cons one tells =>
      cases tells with
      | cons other tells =>
        cases tells
        simp [one.kind, other.kind, first, third]
  rw [(both kept (by simp)).2.mpr unclosed] at accepts
  refine ⟨⟨kept, plain, keeps, reads, kinds, ?_⟩, accepts,
    ((parse_modes "(" "(").2 _ compile_unclosed).1⟩
  have known : (kept.filter (·.kind != .unknown)).map (·.kind) =
      (kept.map (·.kind)).filter (· != .unknown) := by
    rw [List.filter_map]
    rfl
  rw [alone, renumbered_kinds, known, kinds]
  rfl

end Format.AdHoc

end BuildLog
