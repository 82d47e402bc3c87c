import BuildLog.Proofs.Decimal.Limit
import BuildLog.Proofs.Format.Faults
import BuildLog.Proofs.Json.RoundTrip

/-! Where the members of a record go. A member whose name is not known is a further attribute of
the event. Each field of the event takes the first of the names for it whose value counts; what has
a known name and is not taken is told nowhere. -/
namespace BuildLog.Format.JsonLines

open Text
open Json (Members Value)

def hasText : Value → Bool
  | .null => false
  | .string s => !s.isEmpty
  | _ => true

/-- The first of the names whose value in the record counts. -/
def taken? (counts : Value → Bool) (record : Members) (names : List String) : Option String :=
  names.find? fun name => (record.get? name).any counts

def takenText (counts : Value → Bool) (record : Members) (names : List String) : String :=
  ((taken? counts record names).bind record.get?).elim "" Value.text

/-- A field of the event takes the member. -/
inductive IsTaken (record : Members) (name : String) : Prop
  | time (first : taken? hasText record timeNames = some name)
  | level (first : taken? hasText record levelNames = some name)
  | message (first : taken? hasText record messageNames = some name)
  | origin (first : taken? Value.isGiven record ["logger", "caller"] = some name)
  | file (first : taken? Value.isGiven record ["file"] = some name)

/-- The name is known, so the member is no further attribute, and no field takes it. -/
def IsOverlooked (record : Members) (name : String) : Prop :=
  name ∈ knownNames ∧ ¬IsTaken record name

/-- The event tells the member: as a further attribute, by its verdict, or in one of its fields. -/
inductive Keeps [Host] (e : Event) (name : String) (v : Value) : Prop
  | further {attributes : Members} (data : e.data = (Value.object attributes).line)
      (member : attributes.get? name = some v)
  | level (isLevel : name ∈ levelNames) (status : e.status = some (Verdict.ofLevel v.text).status)
      (severity : e.severity = some (Verdict.ofLevel v.text).severity)
  | message (text : e.message = v.text)
  | origin (text : e.origin = v.text)
  | file (text : e.file = v.text)
  | line {n : Int} (place : e.line = .int n) (text : toString n = v.text)
  | time (isTime : name ∈ timeNames) (text : e.startedAt = Timestamp.iso v.text)

def attributes (record : Members) : Members := record.filter fun m => !knownNames.contains m.1

def without (record : Members) (name : String) : Members := record.filter (·.1 != name)

def eventAt [Host] (record : Members) (line : String) (number id : Int) : Event :=
  { (eventOf record line).onLine number line with id }

theorem isEmpty_text {v : Value} (notNull : v ≠ .null) : v.text.isEmpty = !hasText v := by
  cases v with
  | null => exact absurd rfl notNull
  | string s => simp [Value.text, hasText]
  | bool b => cases b <;> rfl
  | int n => cases n <;> simp [Value.text, Value.shown, hasText, toString, Int.repr]
  | float x =>
    obtain ⟨before, c, after, text, -, -⟩ := Decimal.text_stops x
    have filled : Decimal.Layout.plain.text x ≠ "" := by
      intro empty
      simp [empty] at text
    simpa [Value.text, Value.shown, hasText] using filled
  | array items => simp [Value.text, Value.shown, hasText]
  | object members => simp [Value.text, Value.shown, hasText]

theorem isEmpty_text_of_hasText {v : Value} (filled : hasText v = true) :
    v.text.isEmpty = false := by
  have notNull : v ≠ .null := by
    rintro rfl
    cases filled
  simp [isEmpty_text notNull, filled]

theorem memberText?_eq (record : Members) (name : String) :
    memberText? record name = ((record.get? name).filter hasText).map Value.text := by
  have shown {v : Value} (notNull : v ≠ .null) :
      (if v.text.isEmpty then none else some v.text) =
        ((some v).filter hasText).map Value.text := by
    rw [isEmpty_text notNull, Option.filter_some]
    cases hasText v <;> rfl
  unfold memberText?
  cases record.get? name with
  | none => rfl
  | some v =>
    cases v with
    | null => rfl
    | _ => exact shown nofun

theorem firstText_eq (record : Members) (names : List String) :
    firstText record names = takenText hasText record names := by
  have first : names.findSome? (memberText? record) =
      ((taken? hasText record names).bind record.get?).map Value.text := by
    unfold taken?
    induction names with
    | nil => rfl
    | cons name rest ih =>
      rw [List.findSome?_cons, List.find?_cons, memberText?_eq]
      cases found : record.get? name with
      | none => simpa using ih
      | some v => cases text : hasText v <;> simp [Option.filter, text, ih, found]
  rw [firstText, first, takenText]
  cases (taken? hasText record names).bind record.get? <;> rfl

theorem firstGiven_eq (record : Members) (names : List String) :
    firstGiven record names = takenText Value.isGiven record names := by
  rw [firstGiven, List.find?_filterMap]
  rfl

/-- All that is read of a record: its attributes and what five fields take. -/
theorem eventOf_eq [Host] (record : Members) (line : String) :
    eventOf record line =
      { profile.event.withVerdict (.ofLevel (takenText hasText record levelNames)) with
        kind := .debugEvent
        message :=
          if (takenText hasText record messageNames).isEmpty then take shownLength line
          else takenText hasText record messageNames
        origin := takenText Value.isGiven record ["logger", "caller"]
        file := takenText Value.isGiven record ["file"]
        startedAt := Timestamp.iso (takenText hasText record timeNames)
        data :=
          if (attributes record).isEmpty then ""
          else (Value.object (attributes record)).line } := by
  simp only [eventOf, firstText_eq, firstGiven_eq]
  rfl

theorem takenText_of_taken {counts : Value → Bool} {record : Members} {names : List String}
    {name : String} {v : Value} (first : taken? counts record names = some name)
    (member : record.get? name = some v) : takenText counts record names = v.text := by
  simp [takenText, first, member]

theorem mem_of_taken {counts : Value → Bool} {record : Members} {names : List String}
    {name : String} (first : taken? counts record names = some name) : name ∈ names :=
  List.mem_of_find?_eq_some first

theorem get?_filter (keeps : String → Bool) (record : Members) (name : String) :
    Members.get? (record.filter fun m => keeps m.1) name =
      if keeps name then record.get? name else none := by
  unfold Members.get?
  induction record with
  | nil => simp
  | cons m rest ih =>
    obtain ⟨key, v⟩ := m
    rw [List.filter_cons, List.lookup_cons]
    by_cases same : name = key
    · subst same
      cases kept : keeps name <;> simp [kept, ih]
    · have other : (name == key) = false := beq_eq_false_iff_ne.mpr same
      cases kept : keeps key <;> simp [other, ih, List.lookup_cons]

theorem get?_without (record : Members) (name other : String) :
    (without record name).get? other = if other = name then none else record.get? other := by
  have dropped := get?_filter (· != name) record other
  rw [without, dropped]
  by_cases same : other = name <;> simp [same]

theorem get?_attributes (record : Members) {name : String} (unknown : name ∉ knownNames) :
    (attributes record).get? name = record.get? name := by
  have kept := get?_filter (!knownNames.contains ·) record name
  rw [attributes, kept]
  simp [unknown]

theorem attributes_without (record : Members) {name : String} (known : name ∈ knownNames) :
    attributes (without record name) = attributes record := by
  rw [attributes, without, List.filter_filter, attributes]
  refine List.filter_congr fun m _ => ?_
  by_cases same : m.1 = name <;> simp [same, known]

/-- What is not taken may as well be missing. -/
theorem taken?_without {counts : Value → Bool} {record : Members} {names : List String}
    {name : String} (other : taken? counts record names ≠ some name) :
    taken? counts (without record name) names = taken? counts record names := by
  unfold taken? at other ⊢
  induction names with
  | nil => rfl
  | cons first rest ih =>
    rw [List.find?_cons] at other
    rw [List.find?_cons, List.find?_cons, get?_without]
    by_cases same : first = name
    · -- The search went on behind the name, as it does where the name is missing.
      subst same
      cases counted : (record.get? first).any counts with
      | true => simp [counted] at other
      | false => simpa [counted] using ih (by simpa [counted] using other)
    · cases counted : (record.get? first).any counts with
      | true => simp [same, counted]
      | false => simpa [same, counted] using ih (by simpa [counted] using other)

theorem takenText_without {counts : Value → Bool} {record : Members} {names : List String}
    {name : String} (other : taken? counts record names ≠ some name) :
    takenText counts (without record name) names = takenText counts record names := by
  rw [takenText, taken?_without other, takenText]
  cases taken : taken? counts record names with
  | none => rfl
  | some first =>
    have different : first ≠ name := fun same => other (same ▸ taken)
    simp [get?_without, different]

theorem eventOf_without [Host] {record : Members} {name : String}
    (overlooked : IsOverlooked record name)
    (line : String) : eventOf (without record name) line = eventOf record line := by
  obtain ⟨known, untaken⟩ := overlooked
  rw [eventOf_eq, eventOf_eq, attributes_without record known,
    takenText_without (untaken ∘ .time), takenText_without (untaken ∘ .level),
    takenText_without (untaken ∘ .message), takenText_without (untaken ∘ .origin),
    takenText_without (untaken ∘ .file)]

theorem keeps_of_taken [Host] {record : Members} {name : String} {v : Value}
    (member : record.get? name = some v) (filled : hasText v = true) (taken : IsTaken record name)
    (line : String) (number id : Int) : Keeps (eventAt record line number id) name v := by
  rw [eventAt, eventOf_eq]
  cases taken with
  | time first =>
    refine .time (mem_of_taken first) ?_
    rw [← takenText_of_taken first member]
    rfl
  | level first =>
    refine .level (mem_of_taken first) ?_ ?_
    · rw [← takenText_of_taken first member]
      rfl
    · rw [← takenText_of_taken first member]
      rfl
  | message first =>
    have shown := isEmpty_text_of_hasText filled
    refine .message ?_
    rw [← takenText_of_taken first member] at shown ⊢
    exact if_neg (by simp [shown])
  | origin first => exact .origin (takenText_of_taken first member)
  | file first => exact .file (takenText_of_taken first member)

theorem keeps_of_unknown [Host] {record : Members} {name : String} {v : Value}
    (member : record.get? name = some v) (unknown : name ∉ knownNames)
    (line : String) (number id : Int) : Keeps (eventAt record line number id) name v := by
  have kept := (get?_attributes record unknown).trans member
  have some : (attributes record).isEmpty = false := by
    cases all : attributes record with
    | nil => simp [all, Members.get?] at kept
    | cons m rest => rfl
  refine .further ?_ kept
  rw [eventAt, eventOf_eq]
  exact if_neg (by simp [some])

/-- The line of a record is known and read by no field. -/
theorem line_isOverlooked (record : Members) : IsOverlooked record "line" := by
  refine ⟨by decide, fun taken => ?_⟩
  cases taken with
  | _ first => exact absurd (mem_of_taken first) (by decide)

theorem line_object_ne_empty (members : Members) : (Value.object members).line ≠ "" := by
  cases members <;> simp [Value.line, Value.write, Json.Style.value, Json.Style.members,
    Json.Style.enclosed]

theorem parseLine_of_record [Host] {text : String} {record : Members}
    (isRecord : Json.read (stripped text) = .ok (.object record)) (number id : Int) :
    parseLine text number id = pure (some (eventAt record (stripped text) number id)) := by
  have filled : (stripped text).isEmpty = false := by
    cases empty : (stripped text).isEmpty with
    | false => rfl
    | true =>
      rw [String.isEmpty_iff.mp empty, read_empty] at isRecord
      cases isRecord
  have shallow : Json.read (stripped text) ≠ .error .tooDeep := by simp [isRecord]
  have found : record? (stripped text) = pure (some record) := by
    simp [record?, Run.readJson?_eq shallow, isRecord, Except.toOption]
  simp only [parseLine, filled, found]
  rfl

/-- A line that is a record has one event. It tells each member that is neither null nor empty,
unless this is overlooked; then the event is the one that it would be without the member. -/
theorem parseLine_members [Host] {text : String} {record : Members}
    (isRecord : Json.read (stripped text) = .ok (.object record)) (number id : Int) :
    ∃ e, parseLine text number id = pure (some e) ∧
      ∀ name v, record.get? name = some v → hasText v = true →
        (¬IsOverlooked record name → Keeps e name v) ∧
        (IsOverlooked record name →
          e = eventAt (without record name) (stripped text) number id) := by
  refine ⟨_, parseLine_of_record isRecord number id, fun name v member filled => ⟨?_, ?_⟩⟩
  · intro noticed
    by_cases known : name ∈ knownNames
    · have taken : IsTaken record name := by_contra fun untaken => noticed ⟨known, untaken⟩
      exact keeps_of_taken member filled taken (stripped text) number id
    · exact keeps_of_unknown member known (stripped text) number id
  · intro overlooked
    rw [eventAt, eventAt, eventOf_without overlooked]

def doubled : Members :=
  [("msg", .string "a"), ("message", .string "b"), ("line", .string "5")]

def doubledLine : String := "\x7b\"msg\": \"a\", \"message\": \"b\", \"line\": \"5\"\x7d"

theorem doubled_isTextual : (Json.Value.object doubled).IsTextual 1 := by
  refine .object (by decide) ?_
  simp [doubled, Json.Value.IsTextual.string]

theorem read_doubledLine : Json.read (stripped doubledLine) = .ok (.object doubled) := by
  have written : stripped doubledLine = (Json.Value.object doubled).line := by decide
  rw [written]
  exact Json.read_line doubled_isTextual (by decide)

/-- Its event has the first message, and neither the other one nor the line. -/
theorem parseLine_members_doubled :
    Json.read (stripped doubledLine) = .ok (.object doubled) ∧
    ∃ e, parseLine doubledLine 1 1 = pure (some e) ∧ Keeps e "msg" (.string "a") ∧
      ¬Keeps e "message" (.string "b") ∧ ¬Keeps e "line" (.string "5") := by
  obtain ⟨e, parsed, members⟩ := parseLine_members read_doubledLine 1 1
  have first : ¬IsOverlooked doubled "msg" := fun overlooked =>
    overlooked.2 (.message (by decide))
  have same := (members "line" (.string "5") rfl (by decide)).2 (line_isOverlooked doubled)
  have gone {name text : String} (other : text ∉ ["a", "", "-1"]) (noTime : name ∉ timeNames)
      (noLevel : name ∉ levelNames) : ¬Keeps e name (.string text) := by
    have message : e.message = "a" := same ▸ by decide
    have origin : e.origin = "" := same ▸ by decide
    have file : e.file = "" := same ▸ by decide
    have line : e.line = .int (-1) := same ▸ by decide
    have data : e.data = "" := same ▸ by decide
    simp only [List.mem_cons, List.not_mem_nil, or_false, not_or] at other
    intro keeps
    cases keeps with
    | further written _ => exact line_object_ne_empty _ (written.symm.trans data)
    | level isLevel => exact noLevel isLevel
    | message told => exact other.1 (told.symm.trans message)
    | origin told => exact other.2.1 (told.symm.trans origin)
    | file told => exact other.2.1 (told.symm.trans file)
    | line place told =>
      cases place.symm.trans line
      exact other.2.2 told.symm
    | time isTime => exact noTime isTime
  refine ⟨read_doubledLine, e, parsed, (members "msg" (.string "a") rfl (by decide)).1 first,
    ?_, ?_⟩
  · exact gone (by decide) (by decide) (by decide)
  · exact gone (by decide) (by decide) (by decide)

end BuildLog.Format.JsonLines
