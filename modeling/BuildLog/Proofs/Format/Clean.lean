import BuildLog.Proofs.Format.Ending
import BuildLog.Proofs.Format.Findings
import BuildLog.Proofs.Format.Overlong
import BuildLog.Proofs.Format.Recognition

/-! Reports that are taken for clean. A report of flake8 is known by a position with a code, which
is looked for in the whole log and may span lines, but a finding is made of a line that has the name
of a file in front and a blank behind the code. Where there is no such line the summary tells of
success, though the log was recognised. -/
namespace BuildLog

open Text

theorem Line.isSearched_of_mem {content : String} {line : Line}
    (member : line ∈ read defaultLimit content) : isSearched line.text = true := by
  have within := read_length_le member
  rw [String.length_toList] at within
  refine decide_eq_true ?_
  simp only [effectiveLimit, defaultLimit] at within ⊢
  omega

namespace Format.Flake8

open Pattern (CharClass Node)

def IsNumber (least : Nat) (digits : List Char) : Prop :=
  least ≤ digits.length ∧ ∀ c ∈ digits, isDecimal c = true

/-- What stands between the name of a file and a code: the numbers of a line and of a column. -/
inductive IsPosition : List Char → Prop
  | of {row column : List Char} (first : IsNumber 1 row) (second : IsNumber 1 column) :
      IsPosition (".py".toList ++ ':' :: row ++ ':' :: column ++ [':'])

/-- A position and a code of one letter, by which a report is known. -/
inductive IsMention : List Char → Prop
  | of {position blanks digits : List Char} {letter : Char} (placed : IsPosition position)
      (apart : ∀ c ∈ blanks, isBlank c = true) (known : letter ∈ "FEWC".toList)
      (numbered : IsNumber 3 digits) : IsMention (position ++ blanks ++ letter :: digits)

/-- A line with the name of a file, a position and a code; a blank sets the message apart. -/
inductive IsFinding : List Char → Prop
  | of {file position blanks letters digits message : List Char} {blank : Char}
      (named : file ≠ []) (placed : IsPosition position) (apart : ∀ c ∈ blanks, isBlank c = true)
      (lettered : letters ≠ []) (upper : ∀ c ∈ letters, 'A' ≤ c ∧ c ≤ 'Z')
      (numbered : IsNumber 3 digits) (ended : isBlank blank = true) :
      IsFinding (file ++ position ++ blanks ++ letters ++ digits ++ blank :: message)

theorem spells_digits_iff {least : Nat} {u : List Char} :
    (Node.run .greedy least none .digits).Spells u ↔ IsNumber least u := by
  simp [Node.Spells, Pattern.digits_has, IsNumber]

theorem spells_blanks_iff {least : Nat} {u : List Char} :
    (Node.run .greedy least none .blanks).Spells u ↔
      least ≤ u.length ∧ ∀ c ∈ u, isBlank c = true := by
  simp [Node.Spells, Pattern.blanks_has]

theorem spells_colonNumber_iff {u : List Char} :
    colonNumber.Spells u ↔ ∃ digits, u = ':' :: digits ∧ IsNumber 1 digits := by
  constructor
  · rintro ⟨_, digits, rfl, colon, number⟩
    obtain rfl := (Node.spells_char_iff _ _).mp colon
    exact ⟨digits, rfl, spells_digits_iff.mp number⟩
  · rintro ⟨digits, rfl, number⟩
    exact ⟨[':'], digits, rfl, Node.spells_char ':', spells_digits_iff.mpr number⟩

theorem spells_mentionFront_iff {u : List Char} : mentionFront.Spells u ↔ IsPosition u := by
  constructor
  · rintro ⟨_, _, rfl, name, _, _, rfl, row, _, _, rfl, column, colon⟩
    obtain rfl := (Node.spells_literal_iff _ _).mp name
    obtain ⟨row, rfl, first⟩ := spells_colonNumber_iff.mp row
    obtain ⟨column, rfl, second⟩ := spells_colonNumber_iff.mp column
    obtain rfl := (Node.spells_char_iff _ _).mp colon
    simpa using IsPosition.of first second
  · rintro ⟨first, second⟩
    have row := spells_colonNumber_iff.mpr ⟨_, rfl, first⟩
    have column := spells_colonNumber_iff.mpr ⟨_, rfl, second⟩
    simpa [mentionFront] using Node.spells_cat (Node.spells_literal ".py")
      (Node.spells_cat row (Node.spells_cat column (Node.spells_char ':')))

theorem oneOf_has_iff (s : String) (c : Char) :
    (CharClass.oneOf s).has c = true ↔ c ∈ s.toList := by
  simp [CharClass.has, CharClass.oneOf, Pattern.Item.has, Pattern.Fold.matching, Char.toNat_inj]

theorem range_has_iff (low high c : Char) :
    (CharClass.ranges [(low, high)]).has c = true ↔ low ≤ c ∧ c ≤ high := by
  simp [CharClass.has, CharClass.ranges, Pattern.Item.has, Pattern.Fold.matching]
  rfl

theorem spells_mention_iff {u : List Char} : mention.root.Spells u ↔ IsMention u := by
  rw [spells_mention]
  constructor
  · rintro ⟨position, blanks, _, rfl, placed, apart, _, digits, rfl, ⟨letter, rfl, known⟩, number⟩
    exact .of (spells_mentionFront_iff.mp placed) (List.all_eq_true.mp apart)
      ((oneOf_has_iff _ _).mp known) (spells_digits_iff.mp number)
  · rintro ⟨placed, apart, known, numbered⟩
    refine ⟨_, _, _, rfl, spells_mentionFront_iff.mpr placed, List.all_eq_true.mpr apart, ?_⟩
    exact ⟨[_], _, rfl, ⟨_, rfl, (oneOf_has_iff _ _).mpr known⟩, spells_digits_iff.mpr numbered⟩

def fileName : Node := .cat (.run .lazy 1 none .anyButLineFeed) (.literal ".py")

def anyCode : Node := .cat (.many1 (.ranges [('A', 'Z')])) atLeastThreeDigits

theorem spells_fileName_iff {u : List Char} :
    fileName.Spells u ↔ ∃ file, u = file ++ ".py".toList ∧ file ≠ [] ∧ '\n' ∉ file := by
  constructor
  · rintro ⟨file, _, rfl, ⟨named, -, inLine⟩, name⟩
    obtain rfl := (Node.spells_literal_iff _ _).mp name
    refine ⟨file, rfl, List.length_pos_iff.mp named, fun fed => ?_⟩
    exact (Pattern.anyButLineFeed_has _).mp (inLine _ fed) rfl
  · rintro ⟨file, rfl, named, unfed⟩
    refine Node.spells_cat ⟨List.length_pos_iff.mpr named, nofun, fun c member => ?_⟩
      (Node.spells_literal ".py")
    rw [Pattern.anyButLineFeed_has]
    rintro rfl
    exact unfed member

theorem spells_anyCode_iff {u : List Char} :
    anyCode.Spells u ↔ ∃ letters digits, u = letters ++ digits ∧ letters ≠ [] ∧
      (∀ c ∈ letters, 'A' ≤ c ∧ c ≤ 'Z') ∧ IsNumber 3 digits := by
  constructor
  · rintro ⟨letters, digits, rfl, ⟨lettered, -, upper⟩, numbered⟩
    exact ⟨letters, digits, rfl, List.length_pos_iff.mp lettered,
      fun c member => (range_has_iff _ _ _).mp (upper c member), spells_digits_iff.mp numbered⟩
  · rintro ⟨letters, digits, rfl, lettered, upper, numbered⟩
    refine Node.spells_cat ⟨List.length_pos_iff.mpr lettered, nofun, fun c member => ?_⟩
      (spells_digits_iff.mpr numbered)
    exact (range_has_iff _ _ _).mpr (upper c member)

def findingFront : List Node := [
  .group 1 fileName, .char ':', .group 2 (.many1 .digits), .char ':', .group 3 (.many1 .digits),
  .char ':', .many .blanks, .group 4 anyCode, .many1 .blanks]

/-- The numbers and the colons of a position are taken one by one. -/
theorem spells_findingFront_iff {u : List Char} : (Node.seq findingFront).Spells u ↔
    ∃ file position blanks letters digits ends,
      u = file ++ position ++ blanks ++ letters ++ digits ++ ends ∧
      (file ≠ [] ∧ '\n' ∉ file) ∧ IsPosition position ∧ (∀ c ∈ blanks, isBlank c = true) ∧
      (letters ≠ [] ∧ ∀ c ∈ letters, 'A' ≤ c ∧ c ≤ 'Z') ∧ IsNumber 3 digits ∧
      (ends ≠ [] ∧ ∀ c ∈ ends, isBlank c = true) := by
  constructor
  · rintro ⟨_, _, rfl, name, _, _, rfl, colon, row, _, rfl, first, _, _, rfl, colon', column, _,
      rfl, second, _, _, rfl, colon'', blanks, _, rfl, apart, _, ends, rfl, code, ended⟩
    obtain ⟨file, rfl, named⟩ := spells_fileName_iff.mp name
    obtain ⟨letters, digits, rfl, lettered, upper, numbered⟩ := spells_anyCode_iff.mp code
    obtain rfl := (Node.spells_char_iff _ _).mp colon
    obtain rfl := (Node.spells_char_iff _ _).mp colon'
    obtain rfl := (Node.spells_char_iff _ _).mp colon''
    have placed := IsPosition.of (spells_digits_iff.mp first) (spells_digits_iff.mp second)
    have solid := spells_blanks_iff.mp ended
    exact ⟨file, _, blanks, letters, digits, ends, by simp, named, placed,
      (spells_blanks_iff.mp apart).2, ⟨lettered, upper⟩, numbered,
      List.length_pos_iff.mp solid.1, solid.2⟩
  · rintro ⟨file, _, blanks, letters, digits, ends, rfl, named, @⟨row, column, first, second⟩,
      apart, ⟨lettered, upper⟩, numbered, ended, solid⟩
    have name := spells_fileName_iff.mpr ⟨file, rfl, named⟩
    have code := spells_anyCode_iff.mpr ⟨letters, digits, rfl, lettered, upper, numbered⟩
    have parts : file ++ (".py".toList ++ ':' :: row ++ ':' :: column ++ [':']) ++ blanks ++
        letters ++ digits ++ ends = (file ++ ".py".toList) ++ ([':'] ++ (row ++ ([':'] ++ (column ++
          ([':'] ++ (blanks ++ ((letters ++ digits) ++ ends))))))) := by simp
    rw [parts]
    refine ⟨_, _, rfl, name, ?_⟩
    refine ⟨_, _, rfl, Node.spells_char ':', _, _, rfl, spells_digits_iff.mpr first, ?_⟩
    refine ⟨_, _, rfl, Node.spells_char ':', _, _, rfl, spells_digits_iff.mpr second, ?_⟩
    refine ⟨_, _, rfl, Node.spells_char ':', _, _, rfl, ?_, _, _, rfl, code, ?_⟩
    · exact spells_blanks_iff.mpr ⟨Nat.zero_le _, apart⟩
    · exact spells_blanks_iff.mpr ⟨List.length_pos_iff.mpr ended, solid⟩

/-- On a line of its own a finding has nothing behind it but its message. -/
theorem finding_matchStart_iff {text : String} (unfed : '\n' ∉ text.toList) :
    (finding.matchStart text).isSome = true ↔ IsFinding text.toList := by
  have shape : finding.root.Reaches text.toList.toArray (fun _ => True) 0 ↔
      (Node.seq (findingFront ++ [.group 5 (.many .anyButLineFeed),
        .anchor .lastLineEnd])).Reaches text.toList.toArray (fun _ => True) 0 := and_iff_right rfl
  rw [Pattern.matchStart_isSome (by decide), shape,
    Node.seq_append_reaches (by decide) (by simp)]
  constructor
  · rintro ⟨u, spelled, ⟨rest, whole⟩, -⟩
    obtain ⟨file, position, blanks, letters, digits, ends, rfl, ⟨named, -⟩, placed, apart,
      ⟨lettered, upper⟩, numbered, ended, solid⟩ := spells_findingFront_iff.mp spelled
    obtain ⟨blank, more, rfl⟩ := List.exists_cons_of_ne_nil ended
    rw [List.drop_zero, List.toList_toArray, List.append_assoc, List.cons_append] at whole
    rw [← whole]
    exact .of named placed apart lettered upper numbered (solid blank List.mem_cons_self)
  · generalize text.toList = cs at unfed
    rintro @⟨file, position, blanks, letters, digits, message, blank, named, placed, apart,
      lettered, upper, numbered, ended⟩
    have front : (Node.seq findingFront).Spells
        (file ++ position ++ blanks ++ letters ++ digits ++ [blank]) := by
      refine spells_findingFront_iff.mpr ⟨file, position, blanks, letters, digits, [blank], rfl,
        ⟨named, fun fed => unfed (by simp [fed])⟩, placed, apart, ⟨lettered, upper⟩, numbered,
        List.cons_ne_nil blank [], ?_⟩
      simpa using ended
    refine ⟨_, front, ⟨message, by simp⟩, (Node.rest_reaches unfed 5 0 ?_).mpr ?_⟩
    · simp
    · simp

/-- With the name of a file in front and a blank behind it, a mention makes a finding. -/
theorem IsMention.isFinding {u : List Char} (mention : IsMention u) {file : List Char}
    (named : file ≠ []) {blank : Char} (ended : isBlank blank = true) (message : List Char) :
    IsFinding (file ++ u ++ blank :: message) := by
  obtain @⟨position, blanks, digits, letter, placed, apart, known, numbered⟩ := mention
  have upper : ∀ c ∈ "FEWC".toList, 'A' ≤ c ∧ c ≤ 'Z' := by simp
  have found : IsFinding
      (file ++ position ++ blanks ++ [letter] ++ digits ++ blank :: message) :=
    .of named placed apart (List.cons_ne_nil letter []) (by simpa using upper letter known)
      numbered ended
  simpa using found

/-- Every line that is searched and is a finding becomes an event. -/
theorem parseLine_readsWhere : LineReader.ReadsWhere parseLine fun text =>
    Line.isSearched text && (finding.matchStart text).isSome where
  found line id due := by
    obtain ⟨searched, found⟩ := Bool.and_eq_true_iff.mp due
    obtain ⟨m, found⟩ := Option.isSome_iff_exists.mp found
    have within : finding.matchWithin Line.defaultLimit line.text = some m := by
      rw [Pattern.matchWithin_eq, if_pos searched, found]
    obtain ⟨e, one⟩ := parseLine_of_matches within line.number id
    exact ⟨e, one, parseLine_isQuoting line id e (Run.returns_of_eq one)⟩
  passed text number id missed := by
    have without : finding.matchWithin Line.defaultLimit text = none := by
      rw [Pattern.matchWithin_eq]
      split
      next searched => simpa [searched] using missed
      next => rfl
    rw [parseLine, without]

theorem classify_kind (code : String) : (classify code).1 ≠ .summary := by
  unfold classify
  split
  · exact nofun
  · split <;> exact nofun

theorem parseLine_kind {line : String} {number id : Int} {e : Event}
    (done : (parseLine line number id).Returns (some e)) : e.kind ≠ .summary := by
  unfold parseLine at done
  split at done
  · cases Run.returns_pure.mp done
  next m found =>
    obtain ⟨n, -, done⟩ := Run.returns_bind done
    obtain ⟨k, -, done⟩ := Run.returns_bind done
    obtain rfl := Option.some.inj (Run.returns_pure.mp done)
    exact classify_kind (finding.capture m "code")

section Report

variable {content : String}

theorem isDue_iff {line : Line} (member : line ∈ Line.read Line.defaultLimit content) :
    (Line.isSearched line.text && (finding.matchStart line.text).isSome) = true ↔
      IsFinding line.text.toList := by
  have unfed : '\n' ∉ line.text.toList := fun fed => (Line.read_isUnbroken member _ fed).2 rfl
  rw [Line.isSearched_of_mem member, Bool.true_and, finding_matchStart_iff unfed]

theorem findings_ne_nil_iff {findings : List Event}
    (read : (LineReader.events parseLine (Line.read Line.defaultLimit content)).Returns findings) :
    findings ≠ [] ↔ ∃ line ∈ Line.read Line.defaultLimit content, IsFinding line.text.toList := by
  obtain ⟨events, done, quoting⟩ :=
    parseLine_readsWhere.eventsFrom 1 (Line.read Line.defaultLimit content)
  have read : (LineReader.eventsFrom parseLine 1 _).Returns findings := read
  rw [done, Run.returns_pure] at read
  rw [← read, ← List.length_pos_iff, quoting.length_eq, List.length_pos_iff, ne_eq,
    List.filter_eq_nil_iff]
  simp only [not_forall, not_not]
  constructor
  · rintro ⟨line, member, due⟩
    exact ⟨line, member, (isDue_iff member).mp due⟩
  · rintro ⟨line, member, found⟩
    exact ⟨line, member, (isDue_iff member).mpr found⟩

theorem hasFinding_iff_ne_nil {findings : List Event}
    (read : (LineReader.events parseLine (Line.read Line.defaultLimit content)).Returns findings) :
    HasFinding findings ↔ findings ≠ [] := by
  constructor
  · rintro ⟨e, member, -⟩
    exact List.ne_nil_of_mem member
  · intro filled
    obtain ⟨line, member, found⟩ := (findings_ne_nil_iff read).mp filled
    refine LineReader.eventsFrom_hasFinding (fun id => ?_) member read
    obtain ⟨e, one, -⟩ := parseLine_readsWhere.found line id ((isDue_iff member).mpr found)
    exact ⟨e, one, parseLine_kind (Run.returns_of_eq one)⟩

theorem hasFinding_append_summary (findings : List Event) :
    HasFinding (findings ++ [summary findings]) ↔ HasFinding findings := by
  have last : (summary findings).kind = .summary := rfl
  simp [HasFinding, or_and_right, exists_or, last]

theorem summary_status (findings : List Event) :
    ((summary findings).status = some .fail ↔ findings ≠ []) ∧
      ((summary findings).status = some .pass ↔ findings = []) := by
  cases findings with
  | nil => simp [summary]
  | cons e rest => simp [summary]

/-- A report is known by any mention in it, but it has findings, and fails, if and only if one of
its lines is a finding. A mention is enough for that on a line that it neither begins nor ends. -/
theorem parse_fails_iff (content : String) :
    ((format.accepts content).Returns true ↔ ∃ u, IsMention u ∧ u <:+: content.toList) ∧
    ∃ findings, format.parse content = pure (findings ++ [summary findings]) ∧
      (HasFinding (findings ++ [summary findings]) ↔
        ∃ line ∈ Line.read Line.defaultLimit content, IsFinding line.text.toList) ∧
      ((summary findings).status = some .fail ↔ HasFinding (findings ++ [summary findings])) ∧
      ((summary findings).status = some .pass ↔ ¬HasFinding (findings ++ [summary findings])) ∧
      ∀ line ∈ Line.read Line.defaultLimit content, ∀ file u message blank,
        line.text.toList = file ++ u ++ blank :: message → file ≠ [] → IsMention u →
          isBlank blank = true → HasFinding (findings ++ [summary findings]) := by
  have known :
      (format.accepts content).Returns true ↔ ∃ u, IsMention u ∧ u <:+: content.toList := by
    have finds : (format.accepts content).Returns true ↔ mention.finds content = true :=
      Run.returns_pure
    rw [finds, Pattern.finds_iff (by decide)]
    simp only [spells_mention_iff]
  obtain ⟨events, done⟩ := (flake8_isAnswering content).parse
  have returned : (parse content).Returns events := Run.returns_of_eq done
  obtain ⟨findings, read, ended⟩ := Run.returns_bind returned
  obtain rfl := Run.returns_pure.mp ended
  have filled := findings_ne_nil_iff read
  have some_iff : HasFinding (findings ++ [summary findings]) ↔ findings ≠ [] :=
    (hasFinding_append_summary findings).trans (hasFinding_iff_ne_nil read)
  obtain ⟨fails, passes⟩ := summary_status findings
  refine ⟨known, findings, done, some_iff.trans filled, fails.trans some_iff.symm, ?_, ?_⟩
  · rw [passes, some_iff, not_not]
  · intro line member file u message blank text named mentioned ended
    refine some_iff.mpr (filled.mpr ⟨line, member, ?_⟩)
    rw [text]
    exact mentioned.isFinding named ended message

/-- A code without a message: the report is known, and the summary tells of success. -/
theorem parse_fails_iff_bareCode :
    (format.accepts "a.py:1:1: E501\n").Returns true ∧
      format.parse "a.py:1:1: E501\n" = pure [summary []] ∧
      (summary []).status = some .pass := by
  have lines : Line.read Line.defaultLimit "a.py:1:1: E501\n" =
      [⟨1, "a.py:1:1: E501", false⟩] := by rfl
  have one : IsNumber 1 ['1'] := ⟨by simp, List.all_eq_true.mp (by decide)⟩
  have code : IsNumber 3 ['5', '0', '1'] := ⟨by simp, List.all_eq_true.mp (by decide)⟩
  have mentioned : IsMention ".py:1:1: E501".toList := by
    have apart : ∀ c ∈ [' '], isBlank c = true := List.all_eq_true.mp (by decide)
    have known : 'E' ∈ "FEWC".toList := by simp
    exact .of (.of one one) apart known code
  have unended : ¬IsFinding "a.py:1:1: E501".toList := by
    have missed : (finding.matchStart "a.py:1:1: E501").isSome = false := by decide +kernel
    rw [← finding_matchStart_iff (by decide +kernel), missed]
    exact nofun
  obtain ⟨known, findings, done, found, -, passes, -⟩ := parse_fails_iff "a.py:1:1: E501\n"
  have none : ¬HasFinding (findings ++ [summary findings]) := by
    rw [found, lines]
    simpa using unended
  have passed := passes.mpr none
  obtain rfl := (summary_status findings).2.mp passed
  exact ⟨known.mpr ⟨_, mentioned, by decide +kernel⟩, done, passed⟩

end Report

end Format.Flake8

end BuildLog
