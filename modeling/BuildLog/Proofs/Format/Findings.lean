import BuildLog.Format.RuleDocument
import BuildLog.Proofs.Format.Answering
import BuildLog.Proofs.Format.Limits
import BuildLog.Proofs.Format.Quoting
import BuildLog.Proofs.Pattern.Spelling

/-! Lines in which something is found. Rules make an event of every line in which one of their
patterns is found, and the reader of system logs of every line that is an entry. Neither looks into
a line that is longer than the default limit, and what is captured from a shorter one is too short
to be at fault. -/
namespace BuildLog

def Line.isSearched (text : String) : Bool := (text.length : Int) ≤ defaultLimit

theorem Line.lt_length_iff (text : String) :
    defaultLimit < text.length ↔ ¬isSearched text = true := by
  simp [isSearched]

/-- Every line that is delivered under the default limit is searched. -/
theorem Line.isSearched_of_delivered {content : String} {line : Line}
    (member : line ∈ read defaultLimit content) : isSearched line.text = true := by
  have within := read_length_le member
  have limit : effectiveLimit defaultLimit = 2000 := rfl
  rw [limit, String.length_toList] at within
  exact decide_eq_true (Int.ofNat_le.mpr within)

namespace Pattern

theorem searchWithin_eq (p : Pattern) (line : String) :
    p.searchWithin Line.defaultLimit line =
      if Line.isSearched line then p.search line else none := by
  simp only [searchWithin, Line.lt_length_iff, ite_not]

theorem searchWithin_of_delivered (p : Pattern) {content : String} {line : Line}
    (member : line ∈ Line.read Line.defaultLimit content) :
    p.searchWithin Line.defaultLimit line.text = p.search line.text := by
  rw [searchWithin_eq, if_pos (Line.isSearched_of_delivered member)]

theorem matchWithin_eq (p : Pattern) (line : String) :
    p.matchWithin Line.defaultLimit line =
      if Line.isSearched line then p.matchStart line else none := by
  simp only [matchWithin, Line.lt_length_iff, ite_not]

end Pattern

namespace LineReader

/-- Where exactly the lines that a condition holds of become events, and each event is related to
its line, the events are related to these lines in their order. -/
theorem eventsFrom_where {read : LineReader} {finds : Line → Bool} {R : Event → Line → Prop}
    {lines : List Line}
    (found : ∀ line ∈ lines, finds line = true → ∀ id,
      ∃ e, read line.text line.number id = pure (some e) ∧ R e line)
    (passed : ∀ line ∈ lines, finds line = false → ∀ id,
      read line.text line.number id = pure none) (id : Int) :
    ∃ events, read.eventsFrom id lines = pure events ∧
      List.Forall₂ R events (lines.filter finds) := by
  induction lines generalizing id with
  | nil => exact ⟨[], rfl, .nil⟩
  | cons line rest ih =>
    have others := ih (fun line member => found line (by simp [member]))
      (fun line member => passed line (by simp [member]))
    cases due : finds line with
    | true =>
      obtain ⟨e, one, related⟩ := found line (by simp) due id
      obtain ⟨events, later, pairs⟩ := others (id + 1)
      rw [List.filter_cons, if_pos due]
      refine ⟨e :: events, ?_, .cons related pairs⟩
      simp only [LineReader.eventsFrom, one, pure_bind, later]
    | false =>
      obtain ⟨events, later, pairs⟩ := others id
      rw [List.filter_cons, if_neg (by simp [due])]
      refine ⟨events, ?_, pairs⟩
      simp only [LineReader.eventsFrom, passed line (by simp) due id, pure_bind, later]

/-- Exactly the lines that the condition holds of become events, and an event quotes its line. -/
structure ReadsWhere (read : LineReader) (finds : String → Bool) : Prop where
  found : ∀ (line : Line) (id : Int), finds line.text = true →
    ∃ e, read line.text line.number id = pure (some e) ∧ e.Quotes line
  passed : ∀ text number id, finds text = false → read text number id = pure none

theorem ReadsWhere.answers {read : LineReader} {finds : String → Bool}
    (reads : read.ReadsWhere finds) (line : Line) (id : Int) :
    (read line.text line.number id).Answers := by
  cases due : finds line.text with
  | true =>
    obtain ⟨e, made, -⟩ := reads.found line id due
    exact ⟨some e, made⟩
  | false => exact ⟨none, reads.passed line.text line.number id due⟩

theorem ReadsWhere.eventsFrom {read : LineReader} {finds : String → Bool}
    (reads : read.ReadsWhere finds) (id : Int) (lines : List Line) :
    ∃ events, read.eventsFrom id lines = pure events ∧
      List.Forall₂ Event.Quotes events (lines.filter fun line => finds line.text) :=
  eventsFrom_where (fun line _ due id => reads.found line id due)
    (fun _ _ missed id => reads.passed _ _ id missed) id

/-- A format that reads lines under the caller's limit makes events of what this limit leaves. -/
theorem ReadsWhere.run {read : LineReader} {finds : String → Bool} (reads : read.ReadsWhere finds)
    {profile : Profile} (text : profile.family = .text) (accepts : String → Run Bool)
    (s : Surroundings) (content : String) :
    ∃ events, (Format.ofLines profile accepts read).run s content = pure events ∧
      List.Forall₂ Event.Quotes events
        ((Line.read s.limit content).filter fun line => finds line.text) := by
  obtain ⟨events, done, quoting⟩ := reads.eventsFrom 1 (Line.read s.limit content)
  refine ⟨events, ?_, quoting⟩
  rw [Format.ofLines_run text]
  exact done

end LineReader

namespace Rule

theorem number_answers {text : String} (short : text.toList.length ≤ Decimal.digitLimit)
    (otherwise : Int) : (number text otherwise).Answers := by
  obtain ⟨n, right⟩ := Decimal.boundedPrefix_of_short 32 short
  rw [number, right]
  exact Run.answers_pure _

theorem fill_answers [Host] (e : Event) (field : Field) {text : String}
    (short : text.toList.length ≤ Decimal.digitLimit) : (fill e field text).Answers := by
  cases field with
  | line => exact (number_answers short _).bind fun n => Run.answers_pure _
  | column => exact (number_answers short _).bind fun n => Run.answers_pure _
  | _ => exact Run.answers_pure _

theorem fillAll_answers [Host] (e : Event) {captures : Attributes}
    (short : ∀ capture ∈ captures, capture.2.toList.length ≤ Decimal.digitLimit) :
    (fillAll e captures).Answers := by
  induction captures generalizing e with
  | nil => exact Run.answers_pure e
  | cons capture rest ih =>
    obtain ⟨first, later⟩ := List.forall_mem_cons.mp short
    unfold fillAll
    split
    next field _ => exact (fill_answers e field first).bind fun next => ih next later
    next => exact ih e later

/-- No group of a pattern changes what an event quotes. -/
theorem fill_quotes [Host] {e filled : Event} {field : Field} {text : String} {line : Line}
    (quotes : e.Quotes line) (done : (fill e field text).Returns filled) :
    filled.Quotes line := by
  cases field with
  | line =>
    obtain ⟨n, -, done⟩ := Run.returns_bind done
    rw [← Run.returns_pure.mp done]
    exact ⟨quotes.firstLine, quotes.lastLine, quotes.text⟩
  | column =>
    obtain ⟨n, -, done⟩ := Run.returns_bind done
    rw [← Run.returns_pure.mp done]
    exact ⟨quotes.firstLine, quotes.lastLine, quotes.text⟩
  | _ =>
    rw [← Run.returns_pure.mp done]
    exact ⟨quotes.firstLine, quotes.lastLine, quotes.text⟩

theorem fillAll_quotes [Host] {e filled : Event} {captures : Attributes} {line : Line}
    (quotes : e.Quotes line) (done : (fillAll e captures).Returns filled) :
    filled.Quotes line := by
  induction captures generalizing e with
  | nil => rwa [← Run.returns_pure.mp done]
  | cons capture rest ih =>
    unfold fillAll at done
    split at done
    · obtain ⟨next, one, done⟩ := Run.returns_bind done
      exact ih (fill_quotes quotes one) done
    · exact ih quotes done

/-- A rule whose pattern was found in a line makes an event of it. -/
theorem eventOf_quotes [Host] (r : Rule) (profile : Profile) {m : Pattern.Match} (line : Line)
    (id : Int) (short : m.text.size ≤ Decimal.digitLimit) :
    ∃ e, r.eventOf profile m line.text line.number id = pure e ∧ e.Quotes line := by
  have captured : ∀ capture ∈ r.pattern.captures m,
      capture.2.toList.length ≤ Decimal.digitLimit :=
    fun capture member => Nat.le_trans (Pattern.mem_captures_length_le member) short
  obtain ⟨filled, done⟩ := fillAll_answers
    ({ profile.event with id, kind := r.kind }.onLine line.number line.text) captured
  have quotes : filled.Quotes line :=
    fillAll_quotes ⟨rfl, rfl, rfl⟩ (Run.returns_of_eq done)
  rw [eventOf, done, pure_bind]
  exact ⟨_, rfl, quotes.firstLine, quotes.lastLine, quotes.text⟩

end Rule

namespace RuleSet

def finds (s : RuleSet) (text : String) : Bool := s.rules.any (·.pattern.finds text)

theorem firstMatch?_isSome (s : RuleSet) (line : String) :
    (s.firstMatch? line).isSome = (Line.isSearched line && s.finds line) := by
  rw [Bool.eq_iff_iff, firstMatch?, List.findSome?_isSome_iff, finds]
  simp only [Option.isSome_map, Pattern.searchWithin_eq]
  cases Line.isSearched line with
  | false => simp
  | true => simp [Pattern.finds]

theorem firstMatch?_short {s : RuleSet} {line : String} {r : Rule} {m : Pattern.Match}
    (found : s.firstMatch? line = some (r, m)) : m.text.size ≤ Decimal.digitLimit := by
  obtain ⟨r, -, matched⟩ := List.exists_of_findSome?_eq_some found
  obtain ⟨m, within, same⟩ := Option.map_eq_some_iff.mp matched
  cases same
  exact Line.le_digitLimit (Pattern.searchWithin_size_le within)

/-- Every line that is searched and in which a rule's pattern is found becomes an event. -/
theorem parseLine_readsWhere [Host] (s : RuleSet) :
    s.parseLine.ReadsWhere fun text => Line.isSearched text && s.finds text where
  found line id due := by
    rw [← firstMatch?_isSome] at due
    obtain ⟨⟨r, m⟩, found⟩ := Option.isSome_iff_exists.mp due
    obtain ⟨e, made, quotes⟩ := r.eventOf_quotes s.profile line id (firstMatch?_short found)
    refine ⟨e, ?_, quotes⟩
    simp only [parseLine, found, made, pure_bind]
  passed text number id missed := by
    rw [← firstMatch?_isSome, Option.isSome_eq_false_iff, Option.isNone_iff_eq_none] at missed
    simp only [parseLine, missed]

end RuleSet

namespace Format.Syslog

open Pattern (Node)

def finds (text : String) : Bool := (entry.matchStart text).isSome

theorem parts?_isSome (line : String) :
    (parts? line).isSome = (Line.isSearched line && finds line) := by
  rw [parts?, Option.isSome_map, Pattern.matchWithin_eq, finds]
  cases Line.isSearched line <;> rfl

/-- Every line that is searched and is an entry becomes an event. -/
theorem parseLine_readsWhere [Host] :
    LineReader.ReadsWhere parseLine fun text => Line.isSearched text && finds text where
  found line id due := by
    rw [← parts?_isSome] at due
    obtain ⟨parts, found⟩ := Option.isSome_iff_exists.mp due
    obtain ⟨status, known⟩ := syslog_status_answers found
    simp only [parseLine, found, known, pure_bind]
    exact ⟨_, rfl, rfl, rfl, rfl⟩
  passed text number id missed := by
    rw [← parts?_isSome, Option.isSome_eq_false_iff, Option.isNone_iff_eq_none] at missed
    simp only [parseLine, missed]

def entryBegun : List Char :=
  ['J', 'a', 'n', ' ', '1', ' ', '1', '0', ':', '3', '0', ':', '4', '5', ' ', 'h', ' ', 't', ':']

theorem finds_entry (n : Nat) :
    finds (String.ofList (entryBegun ++ List.replicate n 'x')) = true := by
  refine Pattern.matchStart_of_missing rfl (by decide) ?_
  rw [String.toList_ofList]
  have message : (Node.many .anyButLineFeed).Spells (List.replicate n 'x') :=
    Node.spells_replicate (by decide) n
  have month : (Node.exactly 3 .words).Spells ['J', 'a', 'n'] :=
    Node.spells_between (by decide) (by decide) (by decide +kernel)
  have day : (Node.between 1 2 .digits).Spells ['1'] :=
    Node.spells_between (by decide) (by decide) (by decide)
  have time : (Node.exactly 8 { items := [.category .digit false, .one ':'.toNat] }).Spells
      ['1', '0', ':', '3', '0', ':', '4', '5'] :=
    Node.spells_between (by decide) (by decide) (by decide)
  have blank : (Node.many1 .blanks).Spells [' '] := Node.spells_run (by decide) (by decide)
  have stamp : shortStamp.Spells
      ['J', 'a', 'n', ' ', '1', ' ', '1', '0', ':', '3', '0', ':', '4', '5'] :=
    Node.spells_cat month (Node.spells_cat blank (Node.spells_cat day
      (Node.spells_cat (v := [' ']) ⟨' ', rfl, by decide⟩ time)))
  have host : (Node.many1 .nonBlanks).Spells ['h'] := Node.spells_run (by decide) (by decide)
  have tag : (Node.many1 (.wordOr "-/[].")).Spells ['t'] :=
    Node.spells_run (by decide) (by decide +kernel)
  refine ⟨_, .inl stamp, ⟨_, rfl⟩, ?_⟩
  refine ⟨[' '], blank, ⟨_, rfl⟩, ?_⟩
  refine ⟨['h'], host, ⟨_, rfl⟩, ?_⟩
  refine ⟨[' '], blank, ⟨_, rfl⟩, ?_⟩
  refine ⟨['t'], tag, ⟨_, rfl⟩, ?_⟩
  refine ⟨[':'], Node.spells_char ':', ⟨_, rfl⟩, ?_⟩
  refine ⟨[], Node.spells_run (by decide) (by decide), ⟨_, rfl⟩, ?_⟩
  refine ⟨List.replicate n 'x', message, ⟨[], List.append_nil _⟩, ?_⟩
  refine ⟨?_, trivial⟩
  simp [Pattern.Anchor.holds, entryBegun]
  omega

end Format.Syslog

end BuildLog
