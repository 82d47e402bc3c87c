import BuildLog.Proofs.Decimal.Front
import BuildLog.Proofs.Format.Findings

/-! What counts where rules say several things of a line. Of the rules the first one counts whose
pattern is found in the line; of what tells the verdict, the first that has an answer; of the groups
that name one and the same field, the last that took part. -/
namespace BuildLog

open Text

namespace Rule

/-- The text of the first of the groups that took part, unless it is empty. -/
def token? (captures : Attributes) (groups : List String) : Option String :=
  (groups.findSome? captures.get?).filter (!·.isEmpty)

/-- What tells the verdict, in the order in which it counts: an entry for the captured status, an
entry for the captured severity, the rule's own severity, and the captured severity as a word. -/
def tellings (r : Rule) (captures : Attributes) : List (Option Verdict) :=
  let status? := token? captures statusGroups
  let severity? := token? captures severityGroups
  [(status?.bind fun text => r.statuses.lookup text).map fun s => ⟨s, s.severity⟩,
    (severity?.bind fun text => r.severities.lookup text).map fun s => ⟨statusOfSeverity s, s⟩,
    if r.severity.isEmpty then none else some ⟨statusOfSeverity r.severity, r.severity⟩,
    severity?.map .ofSeverityWord]

/-- What holds for a kind of event; only of a test result the captured status tells something. -/
def kindVerdict (kind : Kind) (status? : Option String) : Verdict :=
  match kind with
  | .buildError => .error
  | .testResult => ((status?.bind testStatus?).map fun s => ⟨s, s.severity⟩).getD .info
  | _ => .info

theorem token_cases (captures : Attributes) (groups : List String) :
    (token? captures groups = none ∧ token captures groups = "") ∨
      ∃ text, token? captures groups = some text ∧ token captures groups = text ∧
        text.isEmpty = false := by
  unfold token token?
  cases groups.findSome? captures.get? with
  | none => exact .inl ⟨rfl, rfl⟩
  | some text =>
    cases empty : text.isEmpty with
    | true => exact .inl ⟨by simp [Option.filter, empty], String.isEmpty_iff.mp empty⟩
    | false => exact .inr ⟨text, by simp [Option.filter, empty], rfl, empty⟩

theorem kindVerdict_eq (kind : Kind) (captures : Attributes) :
    defaultVerdict kind (token captures statusGroups) =
      kindVerdict kind (token? captures statusGroups) := by
  obtain ⟨absent, empty⟩ | ⟨text, given, same, -⟩ := token_cases captures statusGroups
  · have silent : testStatus? "" = none := by decide
    rw [absent, empty]
    cases kind with
    | testResult => simp only [defaultVerdict, kindVerdict, silent, Option.bind_none]
    | _ => rfl
  · rw [given, same]
    cases kind with
    | testResult => simp only [defaultVerdict, kindVerdict, Option.bind_some]
    | _ => rfl

theorem verdict_eq (r : Rule) (captures : Attributes) :
    r.verdict captures = ((tellings r captures).findSome? id).getD
      (kindVerdict r.kind (token? captures statusGroups)) := by
  rw [← kindVerdict_eq]
  have mapped {α : Type} (entries : List (String × α)) (groups : List String) :
      (if (token captures groups).isEmpty then none else entries.lookup (token captures groups)) =
        (token? captures groups).bind fun text => entries.lookup text := by
    obtain ⟨absent, empty⟩ | ⟨text, given, same, filled⟩ := token_cases captures groups
    · simp [absent, empty]
    · simp [given, same, filled]
  unfold verdict tellings
  dsimp only
  rw [mapped, mapped]
  cases (token? captures statusGroups).bind fun text => r.statuses.lookup text with
  | some s => rfl
  | none =>
    cases (token? captures severityGroups).bind fun text => r.severities.lookup text with
    | some s => rfl
    | none =>
      cases own : r.severity.isEmpty with
      | false => simp
      | true =>
        obtain ⟨absent, empty⟩ | ⟨text, given, same, filled⟩ := token_cases captures severityGroups
        · simp [absent, empty]
        · simp [given, same, filled]

def lineGroups : List String := ["line", "lineno", "line_number"]

def columnGroups : List String := ["column", "col"]

theorem mem_fields_of_lookup {name : String} {field : Field}
    (known : fields.lookup name = some field) : (name, field) ∈ fields := by
  obtain ⟨before, after, whole, -⟩ := List.lookup_eq_some_iff.mp known
  simp [whole]

theorem fields_lookup_line (name : String) :
    fields.lookup name = some .line ↔ name ∈ lineGroups := by
  constructor
  · intro known
    simpa [fields, lineGroups] using mem_fields_of_lookup known
  · intro member
    simp only [lineGroups, List.mem_cons, List.not_mem_nil, or_false] at member
    rcases member with rfl | rfl | rfl <;> rfl

theorem fields_lookup_column (name : String) :
    fields.lookup name = some .column ↔ name ∈ columnGroups := by
  constructor
  · intro known
    simpa [fields, columnGroups] using mem_fields_of_lookup known
  · intro member
    simp only [columnGroups, List.mem_cons, List.not_mem_nil, or_false] at member
    rcases member with rfl | rfl <;> rfl

def lastText? (captures : Attributes) (groups : List String) : Option String :=
  ((captures.filter fun capture => groups.contains capture.1).map (·.2)).getLast?

theorem lastText?_cons (capture : String × String) (rest : Attributes) (groups : List String) :
    lastText? (capture :: rest) groups =
      if capture.1 ∈ groups then some ((lastText? rest groups).getD capture.2)
      else lastText? rest groups := by
  unfold lastText?
  by_cases own : capture.1 ∈ groups
  · simp [own, List.getLast?_cons]
  · simp [own]

/-- A group fills none of these fields but the one that it names. -/
theorem fill_others [Host] {e filled : Event} {field : Field} {text : String}
    (done : (fill e field text).Returns filled) :
    filled.kind = e.kind ∧ filled.firstLine = e.firstLine ∧
      (field ≠ .line → filled.line = e.line) ∧ (field ≠ .column → filled.column = e.column) := by
  cases field with
  | line =>
    obtain ⟨n, -, done⟩ := Run.returns_bind done
    simp [← Run.returns_pure.mp done]
  | column =>
    obtain ⟨n, -, done⟩ := Run.returns_bind done
    simp [← Run.returns_pure.mp done]
  | _ => simp [← Run.returns_pure.mp done]

theorem fill_line [Host] {e filled : Event} {text : String}
    (done : (fill e .line text).Returns filled) :
    (number text e.firstLine).Returns filled.line := by
  obtain ⟨n, read, done⟩ := Run.returns_bind done
  rwa [← Run.returns_pure.mp done]

theorem fill_column [Host] {e filled : Event} {text : String}
    (done : (fill e .column text).Returns filled) : (number text (-1)).Returns filled.column := by
  obtain ⟨n, read, done⟩ := Run.returns_bind done
  rwa [← Run.returns_pure.mp done]

theorem fillAll_kind [Host] {e filled : Event} {captures : Attributes}
    (done : (fillAll e captures).Returns filled) : filled.kind = e.kind := by
  induction captures generalizing e with
  | nil => rw [← Run.returns_pure.mp done]
  | cons capture rest ih =>
    unfold fillAll at done
    split at done
    · obtain ⟨next, one, done⟩ := Run.returns_bind done
      rw [ih done, (fill_others one).1]
    · exact ih done

/-- Of the groups that name a field, each fills it anew, so the last one is what counts. -/
theorem fillAll_last [Host] {field : Field} {groups : List String} (get : Event → Ordinal)
    (otherwise : Int → Int)
    (named : ∀ name, fields.lookup name = some field ↔ name ∈ groups)
    (others : ∀ {e filled : Event} {other : Field} {text : String},
      (fill e other text).Returns filled → other ≠ field → get filled = get e)
    (own : ∀ {e filled : Event} {text : String}, (fill e field text).Returns filled →
      (number text (otherwise e.firstLine)).Returns (get filled))
    {e filled : Event} {captures : Attributes} (done : (fillAll e captures).Returns filled) :
    match lastText? captures groups with
    | none => get filled = get e
    | some text => (number text (otherwise e.firstLine)).Returns (get filled) := by
  induction captures generalizing e with
  | nil => simp [lastText?, ← Run.returns_pure.mp done]
  | cons capture rest ih =>
    have member := named capture.1
    rw [lastText?_cons]
    unfold fillAll at done
    cases found : fields.lookup capture.1 with
    | none =>
      simp only [found, reduceCtorEq, false_iff] at member done
      rw [if_neg member]
      exact ih done
    | some other =>
      simp only [found, Option.some.injEq] at member done
      obtain ⟨next, one, done⟩ := Run.returns_bind done
      have later := ih done
      rw [(fill_others one).2.1] at later
      by_cases same : other = field
      · subst same
        rw [if_pos (member.mp rfl)]
        cases last : lastText? rest groups with
        | none =>
          rw [last] at later
          simpa [later] using own one
        | some text => simpa [last] using later
      · rw [if_neg (same ∘ member.mpr), ← others one same]
        exact later

/-- The place that the groups tell: none if no such group took part; else the number of 32 bits at
the beginning of what the last one took, and the other number where there is none. -/
def IsPlace (captures : Attributes) (groups : List String) (otherwise : Int) (o : Ordinal) : Prop :=
  match lastText? captures groups with
  | none => o = .none
  | some text => (∃ n, Decimal.IsIntegerOf 32 text.toList n ∧ o = .int n) ∨
      (¬∃ n, Decimal.IsIntegerOf 32 text.toList n) ∧ o = .int otherwise

theorem number_returns {text : String} {otherwise : Int} {o : Ordinal}
    (done : (number text otherwise).Returns o) :
    (∃ n, Decimal.IsIntegerOf 32 text.toList n ∧ o = .int n) ∨
      (¬∃ n, Decimal.IsIntegerOf 32 text.toList n) ∧ o = .int otherwise := by
  obtain ⟨n?, read, done⟩ := Run.returns_bind done
  rw [← Run.returns_pure.mp done]
  have known := Run.returns_ofNumber.mp read
  cases n? with
  | some n => exact .inl ⟨n, Decimal.boundedPrefix_eq_some_iff.mp known, rfl⟩
  | none =>
    refine .inr ⟨?_, rfl⟩
    rintro ⟨n, integer⟩
    rw [Decimal.boundedPrefix_eq_some_iff.mpr integer] at known
    cases known

theorem isPlace_of_last {captures : Attributes} {groups : List String} {otherwise : Int}
    {o : Ordinal} (last : match lastText? captures groups with
      | none => o = .none
      | some text => (number text otherwise).Returns o) :
    IsPlace captures groups otherwise o := by
  unfold IsPlace
  cases taken : lastText? captures groups with
  | none => simpa [taken] using last
  | some text =>
    rw [taken] at last
    exact number_returns last

def told (r : Rule) (captures : Attributes) : Verdict :=
  ((tellings r captures).findSome? id).getD (kindVerdict r.kind (token? captures statusGroups))

structure Makes [Host] (r : Rule) (profile : Profile) (m : Pattern.Match) (line : Line)
    (e : Event) : Prop where
  made : ∃ id, r.eventOf profile m line.text line.number id = pure e
  quotes : e.Quotes line
  kind : e.kind = r.kind
  status : e.status = some (r.told (r.pattern.captures m)).status
  severity : e.severity = some (r.told (r.pattern.captures m)).severity
  line : IsPlace (r.pattern.captures m) lineGroups line.number e.line
  column : IsPlace (r.pattern.captures m) columnGroups (-1) e.column

theorem eventOf_makes [Host] (r : Rule) (profile : Profile) {m : Pattern.Match} (line : Line)
    (id : Int) (short : m.text.size ≤ Decimal.digitLimit) :
    ∃ e, r.eventOf profile m line.text line.number id = pure e ∧ r.Makes profile m line e := by
  obtain ⟨e, made, quotes⟩ := r.eventOf_quotes profile line id short
  refine ⟨e, made, ?_⟩
  obtain ⟨filled, fields, done⟩ := Run.returns_bind (Run.returns_of_eq made)
  have same := Run.returns_pure.mp done
  have rows := fillAll_last (·.line) (fun number => number) fields_lookup_line
    (fun one other => (fill_others one).2.2.1 other) fill_line fields
  have columns := fillAll_last (·.column) (fun _ => -1) fields_lookup_column
    (fun one other => (fill_others one).2.2.2 other) fill_column fields
  refine ⟨⟨id, made⟩, quotes, ?_, ?_, ?_, ?_, ?_⟩
  · rw [← same]
    exact fillAll_kind fields
  · rw [← same, told, ← verdict_eq]
    rfl
  · rw [← same, told, ← verdict_eq]
    rfl
  · rw [← same]
    exact isPlace_of_last rows
  · rw [← same]
    exact isPlace_of_last columns

end Rule

namespace RuleSet

/-- The first of the rules whose pattern is found in the text, and where it is found. -/
def IsFirst (s : RuleSet) (text : String) (r : Rule) (m : Pattern.Match) : Prop :=
  ∃ before after, s.rules = before ++ r :: after ∧
    (∀ earlier ∈ before, earlier.pattern.finds text = false) ∧ r.pattern.search text = some m

theorem firstMatch?_isFirst {s : RuleSet} {content : String} {line : Line}
    (member : line ∈ Line.read Line.defaultLimit content) {r : Rule} {m : Pattern.Match}
    (found : s.firstMatch? line.text = some (r, m)) : s.IsFirst line.text r m := by
  obtain ⟨before, rule, after, rules, here, missed⟩ := List.findSome?_eq_some_iff.mp found
  obtain ⟨place, within, same⟩ := Option.map_eq_some_iff.mp here
  cases same
  rw [Pattern.searchWithin_of_delivered r.pattern member] at within
  refine ⟨before, after, rules, fun earlier inside => ?_, within⟩
  have nowhere := Option.map_eq_none_iff.mp (missed earlier inside)
  rw [Pattern.searchWithin_of_delivered earlier.pattern member] at nowhere
  rw [Pattern.finds, nowhere]
  rfl

theorem firstMatch?_isSome_of_delivered (s : RuleSet) {content : String} {line : Line}
    (member : line ∈ Line.read Line.defaultLimit content) :
    (s.firstMatch? line.text).isSome = s.finds line.text := by
  rw [firstMatch?_isSome, Line.isSearched_of_delivered member, Bool.true_and]

/-- Each line in which some rule's pattern is found, and no other, has one event, in the order of
the lines. The first such rule makes it, tells its verdict from the captured status, the captured
severity, the rule's severity and the kind, in this order, and its place from the last group that
names it: a line that is no number is that of the log, and a column that is none is unknown. -/
theorem parse_firstMatch [Host] (s : RuleSet) (content : String) :
    ∃ events, s.format.parse content = pure events ∧
      List.Forall₂ (fun e line => ∃ r m, s.IsFirst line.text r m ∧ r.Makes s.profile m line e)
        events ((Line.read Line.defaultLimit content).filter fun line => s.finds line.text) := by
  refine LineReader.eventsFrom_where (fun line member due id => ?_)
    (fun line member missed id => ?_) 1
  · rw [← s.firstMatch?_isSome_of_delivered member] at due
    obtain ⟨⟨r, m⟩, found⟩ := Option.isSome_iff_exists.mp due
    obtain ⟨e, made, makes⟩ := r.eventOf_makes s.profile line id (firstMatch?_short found)
    refine ⟨e, ?_, r, m, firstMatch?_isFirst member found, makes⟩
    simp only [parseLine, found, made, pure_bind]
  · rw [← s.firstMatch?_isSome_of_delivered member, Option.isSome_eq_false_iff,
      Option.isNone_iff_eq_none] at missed
    simp only [parseLine, missed]

end RuleSet

end BuildLog
