import BuildLog.Format.AdHoc
import BuildLog.Proofs.Format.Answering
import BuildLog.Proofs.Format.Quoting
import BuildLog.Proofs.Line.Delivery
import BuildLog.Proofs.Pattern.Spelling
import BuildLog.Proofs.Registry.Calls

/-! Lines longer than the caller allows, in the hands of readers that cut lines under the default
limit. Such a reader quotes a line as long as the default limit, and after a smaller limit has
cut it, it can quote no more than what is left. -/
namespace BuildLog

open Pattern (CharClass Node)

/-- Some log is read to events of which one quotes a line as long as the default limit. -/
def QuotesWhole (read : String → Run (List Event)) : Prop :=
  ∃ content events e, read content = pure events ∧ e ∈ events ∧
    e.text.length = Line.effectiveLimit Line.defaultLimit

/-- No event has a text longer than the lines under the default limit, unless these are shorter
than any limit allows. -/
def QuotesLines (read : String → Run (List Event)) : Prop :=
  ∀ content events n, (read content).Returns events → Line.cutMark.length < n →
    (∀ line ∈ Line.read Line.defaultLimit content, line.text.length ≤ n) →
    ∀ e ∈ events, e.text.length ≤ n

/-- What a limit below the default one leaves of a log is read otherwise than the log. -/
theorem exists_delivered_ne {read : String → Run (List Event)} (whole : QuotesWhole read)
    (lines : QuotesLines read) {limit : Int}
    (smaller : Line.effectiveLimit limit < Line.effectiveLimit Line.defaultLimit) :
    ∃ content, read (Line.delivered limit content) ≠ read content := by
  obtain ⟨content, events, e, reads, member, long⟩ := whole
  refine ⟨content, fun same => ?_⟩
  have done : (read (Line.delivered limit content)).Returns events := by
    rw [same, reads]
    exact Run.returns_pure.mpr rfl
  have marked : Line.cutMark.length < Line.effectiveLimit limit := by
    simp only [Line.cutMark, List.length_cons, List.length_nil, Line.effectiveLimit]
    omega
  have short := lines _ _ _ done marked
    (fun line => Line.length_le_of_delivered (Nat.le_of_lt smaller)) e member
  omega

/-- The beginning of a line, and behind it what makes the line as long as the default limit. -/
def stretched (begun : List Char) : List Char :=
  begun ++ List.replicate (Line.effectiveLimit Line.defaultLimit - begun.length) 'x'

theorem stretched_length {begun : List Char}
    (short : begun.length ≤ Line.effectiveLimit Line.defaultLimit) :
    (stretched begun).length = Line.effectiveLimit Line.defaultLimit := by
  rw [stretched, List.length_append, List.length_replicate]
  omega

/-- A line as long as the default limit is neither cut nor left out of a search. -/
theorem read_stretched (begun : List Char)
    (short : begun.length ≤ Line.effectiveLimit Line.defaultLimit)
    (unbroken : Line.IsUnbroken begun) :
    ∃ line : Line, Line.read Line.defaultLimit (Line.alone (stretched begun)) = [line] ∧
      line.text = String.ofList (stretched begun) ∧
      line.text.length = Line.effectiveLimit Line.defaultLimit := by
  have whole : Line.IsUnbroken (stretched begun) := by
    rw [stretched, Line.isUnbroken_append]
    exact ⟨unbroken, Line.isUnbroken_replicate (by decide) _⟩
  have length := stretched_length short
  refine ⟨⟨1, String.ofList (stretched begun), false⟩, ?_, rfl, ?_⟩
  · exact Line.read_alone whole (Nat.le_of_eq length)
  · rw [String.length_ofList, length]

theorem Pattern.matchWithin_of_length {p : Pattern} {line : String}
    (length : line.length = Line.effectiveLimit Line.defaultLimit)
    (found : (p.matchStart line).isSome = true) :
    ∃ m, p.matchWithin Line.defaultLimit line = some m := by
  have within : ¬Line.defaultLimit < line.length := by
    rw [length]
    decide
  rw [Pattern.matchWithin, if_neg within]
  exact Option.isSome_iff_exists.mp found

/-- A reader that makes an event of every match of the pattern makes one of a line as long as the
default limit, if such a line can begin a match. -/
theorem LineReader.exists_quoted_alone {read : LineReader} (quoting : read.IsQuoting) {p : Pattern}
    (reads : ∀ line number m, p.matchWithin Line.defaultLimit line = some m →
      ∃ e, read line number 1 = pure (some e))
    {begun : List Char} (short : begun.length ≤ Line.effectiveLimit Line.defaultLimit)
    (unbroken : Line.IsUnbroken begun)
    (found : (p.matchStart (String.ofList (stretched begun))).isSome = true) :
    ∃ content e, read.events (Line.read Line.defaultLimit content) = pure [e] ∧
      e.text.length = Line.effectiveLimit Line.defaultLimit := by
  obtain ⟨line, lines, text, length⟩ := read_stretched begun short unbroken
  obtain ⟨m, found⟩ := Pattern.matchWithin_of_length length (text ▸ found)
  obtain ⟨e, one⟩ := reads line.text line.number m found
  have quotes : e.Quotes line := quoting line 1 e (Run.returns_of_eq one)
  refine ⟨Line.alone (stretched begun), e, ?_, ?_⟩
  · simp only [lines, events, eventsFrom, one, pure_bind]
  · rw [quotes.text, length]

namespace Format

namespace Flake8

def findingBegun : List Char :=
  ['a', '.', 'p', 'y', ':', '1', ':', '1', ':', ' ', 'E', '5', '0', '1', ' ']

theorem finding_matches (n : Nat) :
    (finding.matchStart (String.ofList (findingBegun ++ List.replicate n 'x'))).isSome = true := by
  rw [Pattern.matchStart_isSome (by decide), String.toList_ofList]
  have file : (Node.cat (.run .lazy 1 none .anyButLineFeed) (.literal ".py")).Spells
      ['a', '.', 'p', 'y'] :=
    Node.spells_cat (v := ['a']) (Node.spells_run (by decide) (by decide))
      (Node.spells_literal ".py")
  have code : (Node.cat (.many1 (.ranges [('A', 'Z')])) atLeastThreeDigits).Spells
      ['E', '5', '0', '1'] :=
    Node.spells_cat (v := ['E']) (Node.spells_run (by decide) (by decide))
      (Node.spells_run (by decide) (by decide))
  have number : (Node.many1 .digits).Spells ['1'] := Node.spells_run (by decide) (by decide)
  have message : (Node.many .anyButLineFeed).Spells (List.replicate n 'x') :=
    Node.spells_replicate (by decide) n
  refine ⟨rfl, ['a', '.', 'p', 'y'], file, ⟨_, rfl⟩, ?_⟩
  refine ⟨[':'], Node.spells_char ':', ⟨_, rfl⟩, ?_⟩
  refine ⟨['1'], number, ⟨_, rfl⟩, ?_⟩
  refine ⟨[':'], Node.spells_char ':', ⟨_, rfl⟩, ?_⟩
  refine ⟨['1'], number, ⟨_, rfl⟩, ?_⟩
  refine ⟨[':'], Node.spells_char ':', ⟨_, rfl⟩, ?_⟩
  refine ⟨[' '], Node.spells_run (by decide) (by decide), ⟨_, rfl⟩, ?_⟩
  refine ⟨['E', '5', '0', '1'], code, ⟨_, rfl⟩, ?_⟩
  refine ⟨[' '], Node.spells_run (by decide) (by decide), ⟨_, rfl⟩, ?_⟩
  refine ⟨List.replicate n 'x', message, ⟨[], List.append_nil _⟩, ?_⟩
  refine ⟨?_, trivial⟩
  simp [Pattern.Anchor.holds, findingBegun]
  omega

/-- The numbers of a finding are short, so that nothing stands in its way to an event. -/
theorem parseLine_of_matches {line : String} {m : Pattern.Match}
    (found : finding.matchWithin Line.defaultLimit line = some m) (number id : Int) :
    ∃ e, parseLine line number id = pure (some e) := by
  obtain ⟨event?, one⟩ := flake8_parseLine_answers line number id
  cases event? with
  | some e => exact ⟨e, one⟩
  | none =>
    have done : (parseLine line number id).Returns none := Run.returns_of_eq one
    rw [parseLine, found] at done
    obtain ⟨row, -, done⟩ := Run.returns_bind done
    obtain ⟨column, -, done⟩ := Run.returns_bind done
    cases Run.returns_pure.mp done

theorem quotesWhole : QuotesWhole Flake8.parse := by
  have unbroken : Line.IsUnbroken findingBegun := by
    simp [Line.IsUnbroken, findingBegun]
  obtain ⟨content, e, read, length⟩ := LineReader.exists_quoted_alone parseLine_isQuoting
    (fun _ number _ found => parseLine_of_matches found number 1) (by decide) unbroken
    (finding_matches _)
  refine ⟨content, [e, summary [e]], e, ?_, by simp, length⟩
  rw [parse, read, pure_bind]
  rfl

theorem quotesLines : QuotesLines Flake8.parse := by
  intro content events n done marked short e member
  obtain ⟨findings, rfl, quoting⟩ := parse_quotes done
  rcases List.mem_append.mp member with found | last
  · obtain ⟨line, inside, quotes⟩ := quoting.exists_quoted found
    rw [quotes.text]
    exact short line inside
  · rw [List.mem_singleton.mp last]
    exact Nat.zero_le n

end Flake8

namespace Pytest

def resultBegun : List Char :=
  ['t', '.', 'p', 'y', ':', ':', 't', ' ', 'P', 'A', 'S', 'S', 'E', 'D', ' ']

theorem result_matches (n : Nat) :
    (result.matchStart (String.ofList (resultBegun ++ List.replicate n 'x'))).isSome = true := by
  rw [Pattern.matchStart_isSome (by decide), String.toList_ofList]
  have file : (Node.cat
      (.many1 { items := [.category .blank false, .one ':'.toNat], negated := true })
      (.literal ".py")).Spells ['t', '.', 'p', 'y'] :=
    Node.spells_cat (v := ['t']) (Node.spells_run (by decide) (by decide))
      (Node.spells_literal ".py")
  have test : (Node.many1 .nonBlanks).Spells ['t'] := Node.spells_run (by decide) (by decide)
  have outcome : (Node.literals (outcomes.map (·.1))).Spells ['P', 'A', 'S', 'S', 'E', 'D'] :=
    .inl (Node.spells_literal "PASSED")
  refine ⟨rfl, ['t', '.', 'p', 'y'], file, ⟨_, rfl⟩, ?_⟩
  refine ⟨[':'], Node.spells_char ':', ⟨_, rfl⟩, ?_⟩
  refine ⟨[':'], Node.spells_char ':', ⟨_, rfl⟩, ?_⟩
  refine ⟨['t'], test, ⟨_, rfl⟩, ?_⟩
  refine ⟨[' '], Node.spells_run (by decide) (by decide), ⟨_, rfl⟩, ?_⟩
  refine ⟨['P', 'A', 'S', 'S', 'E', 'D'], outcome, ⟨_, rfl⟩, ?_⟩
  -- The outcome ends where a blank stands behind its last letter.
  have edge : Pattern.isBoundary (resultBegun ++ List.replicate n 'x').toArray false 14 = true := by
    have letter : (resultBegun ++ List.replicate n 'x').toArray[13]? = some 'D' := rfl
    have blank : (resultBegun ++ List.replicate n 'x').toArray[14]? = some ' ' := rfl
    have apart : (Text.isWord 'D' != Text.isWord ' ') = true := by decide +kernel
    simp only [Pattern.isBoundary, Pattern.isWordAt, letter, blank]
    exact apart
  refine ⟨?_, trivial⟩
  have filled : ((resultBegun ++ List.replicate n 'x').toArray.size != 0) = true := by
    simp [resultBegun]
  exact Bool.and_eq_true_iff.mpr ⟨filled, edge⟩

theorem parseLine_of_matches {line : String} {m : Pattern.Match}
    (found : result.matchWithin Line.defaultLimit line = some m) (number id : Int) :
    ∃ e, parseLine line number id = pure (some e) := by
  refine ⟨{ (ofResult m).onLine number line with id }, ?_⟩
  simp only [parseLine, result?, found, Option.map_some]

theorem quotesWhole : QuotesWhole Pytest.format.parse := by
  have unbroken : Line.IsUnbroken resultBegun := by
    simp [Line.IsUnbroken, resultBegun]
  obtain ⟨content, e, read, length⟩ := LineReader.exists_quoted_alone parseLine_isQuoting
    (fun _ number _ found => parseLine_of_matches found number 1) (by decide) unbroken
    (result_matches _)
  exact ⟨content, [e], e, read, List.mem_singleton.mpr rfl, length⟩

theorem quotesLines : QuotesLines Pytest.format.parse := by
  intro content events n done marked short e member
  obtain ⟨line, inside, quotes⟩ := (parse_quotes done).exists_quoted member
  rw [quotes.text]
  exact short line inside

end Pytest

namespace AdHoc

theorem eventOf_text {captures : Attributes} {whole : String} {line : Line} {id : Int} {e : Event}
    (done : (eventOf captures whole line id).Returns e) : e.text = line.text := by
  obtain ⟨row, -, done⟩ := Run.returns_bind done
  obtain ⟨column, -, done⟩ := Run.returns_bind done
  rw [← Run.returns_pure.mp done]
  rfl

theorem eventsFrom_texts {p : Pattern} {keepUnread : Bool} {id : Int} {lines : List Line}
    {events : List Event} (done : (eventsFrom p keepUnread id lines).Returns events) :
    ∀ e ∈ events, ∃ line ∈ lines, e.text = line.text := by
  induction lines generalizing id events with
  | nil =>
    rw [← Run.returns_pure.mp done]
    exact List.forall_mem_nil _
  | cons line rest ih =>
    have later {id : Int} {events : List Event}
        (others : (eventsFrom p keepUnread id rest).Returns events) :
        ∀ e ∈ events, ∃ other ∈ line :: rest, e.text = other.text := by
      intro e member
      obtain ⟨other, inside, text⟩ := ih others e member
      exact ⟨other, List.mem_cons_of_mem _ inside, text⟩
    rw [eventsFrom] at done
    split at done
    · obtain ⟨first, one, done⟩ := Run.returns_bind done
      obtain ⟨events, others, done⟩ := Run.returns_bind done
      rw [← Run.returns_pure.mp done]
      exact List.forall_mem_cons.mpr ⟨⟨line, by simp, eventOf_text one⟩, later others⟩
    · split at done
      · obtain ⟨events, others, done⟩ := Run.returns_bind done
        rw [← Run.returns_pure.mp done]
        exact List.forall_mem_cons.mpr ⟨⟨line, by simp, rfl⟩, later others⟩
      · exact later done

/-- What is said of the pattern itself quotes the pattern. -/
theorem quotesLines [Host] {pattern : String} (short : pattern.length ≤ Line.cutMark.length)
    (keepUnread : Bool) : QuotesLines (parse pattern keepUnread) := by
  intro content events n done marked within e member
  obtain ⟨compiled, -, done⟩ := Run.returns_bind done
  cases compiled with
  | error fault =>
    rw [← Run.returns_pure.mp done] at member
    rw [List.mem_singleton.mp member]
    exact Nat.le_trans short (Nat.le_of_lt marked)
  | ok p =>
    obtain ⟨read, lines, done⟩ := Run.returns_bind done
    have quoting := eventsFrom_texts lines
    have placed : e ∈ read ∨ e.text = pattern := by
      rw [← Run.returns_pure.mp done] at member
      split at member
      · rcases List.mem_append.mp member with inside | last
        · exact .inl inside
        · rw [List.mem_singleton.mp last]
          exact .inr rfl
      · exact .inl member
    rcases placed with inside | same
    · obtain ⟨line, inside, text⟩ := quoting e inside
      rw [text]
      exact within line inside
    · rw [same]
      exact Nat.le_trans short (Nat.le_of_lt marked)

def letter : Pattern := ⟨"x", .one (.char 'x'), 0, []⟩

theorem compile_letter [Host] : Pattern.compile "x" = pure letter :=
  Pattern.compile_eq_pure (by cbv) (by cbv)

theorem letter_finds (begun ended : List Char) :
    letter.finds (String.ofList (begun ++ 'x' :: ended)) = true := by
  rw [Pattern.finds_iff (by decide), String.toList_ofList]
  exact ⟨['x'], Node.spells_char 'x', begun, ended, by simp⟩

theorem quotesWhole [Host] : QuotesWhole (parse "x" false) := by
  obtain ⟨line, read, text, length⟩ := read_stretched [] (by decide) nofun
  obtain ⟨m, found⟩ : ∃ m, letter.searchWithin Line.defaultLimit line.text = some m := by
    have within : ¬Line.defaultLimit < line.text.length := by
      rw [length]
      decide
    rw [Pattern.searchWithin, if_neg within, text]
    exact Option.isSome_iff_exists.mp (letter_finds [] _)
  have captures : letter.captures m = [] := rfl
  obtain ⟨e, one, quoted, kind⟩ : ∃ e : Event, eventOf [] m.whole line 1 = pure e ∧
      e.text = line.text ∧ e.kind = .lintIssue := ⟨_, rfl, rfl, rfl⟩
  have events : eventsFrom letter false 1 [line] = pure [e] := by
    simp only [eventsFrom, found, captures, one, pure_bind]
  have sound : compiled "x" = pure (.ok letter) := by
    simp only [compiled, compile_letter]
    rfl
  refine ⟨Line.alone (stretched []), [e], e, ?_, by simp, by rw [quoted, length]⟩
  simp only [parse, sound, read, pure_bind, events]
  simp [kind]

end AdHoc

end Format

end BuildLog
