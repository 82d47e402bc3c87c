import BuildLog.Format.RuleDocument
import BuildLog.Proofs.Run

/-! What a rule document can be given up for. A fault of a document has a message that says what is
wrong and where. Some documents are given up otherwise: for numbers of too many digits, for being
nested too deep, for something else where a map or a pattern is due, and for patterns that overtax
the reader of patterns. These are told here, each with what must be right before it is reached. -/
namespace BuildLog

open Text
open Json (Members Value)

/-- The pattern is given up for something else than a fault in its text. -/
def Overtaxes [Host] (text : String) (e : Fault) : Prop :=
  ∃ cause, Pattern.read (String.ofList (Pattern.expandAlias text.toList)) = .error cause ∧
    (∀ f, cause ≠ .fault f) ∧ e = .pattern cause

theorem Pattern.compile_breaksBy [Host] (text : String) :
    (Pattern.compile text).BreaksBy (Overtaxes text) := by
  unfold compile Overtaxes
  dsimp only
  generalize String.ofList (expandAlias text.toList) = source
  split
  case' isTrue => apply Run.BreaksBy.tell_bind
  all_goals
    cases found : read source with
    | ok p => exact (Run.BreaksBy.of_pure p).congr (by simp)
    | error cause =>
      cases cause with
      | fault f => exact (Run.BreaksBy.of_config _).congr (by simp)
      | _ => exact (Run.BreaksBy.of_throw rfl).congr (by simp)

namespace RuleSet

/-- A member counts as given and is no object. -/
def IsNoMap (m : Members) (name : String) : Prop :=
  ∃ v, given? m name = some v ∧ ∀ members, v ≠ .object members

def mapOf (m : Members) (name : String) : Members :=
  match m.get? name with
  | some (.object members) => members
  | _ => []

theorem entries_of_isNoMap {m : Members} {name : String} (noMap : IsNoMap m name) :
    entries m name = throw .mapNotObject := by
  obtain ⟨v, given, other⟩ := noMap
  obtain ⟨found, counts⟩ := Option.filter_eq_some_iff.mp given
  cases v with
  | object members => exact absurd rfl (other members)
  | _ => simp only [entries, found, Option.getD_some, counts, if_true]

theorem entries_of_not_isNoMap {m : Members} {name : String} (map : ¬IsNoMap m name) :
    entries m name = pure (mapOf m name) := by
  cases found : m.get? name with
  | none => simp [entries, mapOf, found, Value.isGiven]
  | some v =>
    have given (counts : v.isGiven = true) : given? m name = some v :=
      Option.filter_eq_some_iff.mpr ⟨found, counts⟩
    cases v with
    | object members => simp [entries, mapOf, found]
    | _ =>
      have missing := Bool.eq_false_iff.mpr fun counts => map ⟨_, given counts, by simp⟩
      simp [entries, mapOf, found, missing]

theorem entries_breaksBy (m : Members) (name : String) :
    (entries m name).BreaksBy fun e => IsNoMap m name ∧ e = .mapNotObject := by
  by_cases noMap : IsNoMap m name
  · rw [entries_of_isNoMap noMap]
    exact (Run.BreaksBy.of_throw rfl).congr (by simp [noMap])
  · rw [entries_of_not_isNoMap noMap]
    exact (Run.BreaksBy.of_pure _).congr (by simp [noMap])

theorem returns_entries {m o : Members} {name : String} :
    (entries m name).Returns o ↔ ¬IsNoMap m name ∧ o = mapOf m name := by
  by_cases noMap : IsNoMap m name
  · simp [entries_of_isNoMap, noMap]
  · simp [entries_of_not_isNoMap, noMap, eq_comm]

def KnowsStatuses (m : Members) : Prop :=
  ∀ entry ∈ mapOf m "status_map", Status.read? entry.2.text ≠ none

def TellsPattern (m : Members) (source : Value) : Prop :=
  given? m "regex" = some source ∧
    ∃ kindText, given? m "event_type" = some kindText ∧ Kind.ofName? kindText.text ≠ none

inductive RuleBreaks [Host] : Value → Fault → Prop
  | map {m source} (tells : TellsPattern m source)
      (noMap : IsNoMap m "severity_map" ∨ IsNoMap m "status_map") :
      RuleBreaks (.object m) .mapNotObject
  | pattern {m source e} (tells : TellsPattern m source)
      (maps : ¬(IsNoMap m "severity_map" ∨ IsNoMap m "status_map")) (known : KnowsStatuses m)
      (overtaxes : Overtaxes source.text e) : RuleBreaks (.object m) e

theorem readStatus_failsIff (index : Nat) (entry : String × Value) :
    (readStatus index entry).FailsIff (Status.read? entry.2.text = none) := by
  unfold readStatus
  cases Status.read? entry.2.text with
  | some s => exact .of_answers (Run.answers_pure _) (by simp)
  | none => exact ⟨fun _ => ⟨_, rfl⟩, fun known => absurd rfl known⟩

theorem readStatus_breaksBy (index : Nat) (entry : String × Value) :
    (readStatus index entry).BreaksBy fun _ => False := by
  unfold readStatus
  cases Status.read? entry.2.text with
  | some s => exact .of_pure _
  | none => exact .of_config _

theorem mapM_readStatus_breaksBy (index : Nat) (l : Members) :
    (l.mapM (readStatus index)).BreaksBy fun _ => False :=
  (Run.BreaksBy.mapM fun entry _ => readStatus_breaksBy index entry).congr (by simp)

theorem exists_returns_mapM_readStatus (index : Nat) (l : Members) :
    (∃ statuses, (l.mapM (readStatus index)).Returns statuses) ↔
      ∀ entry ∈ l, Status.read? entry.2.text ≠ none := by
  rw [(Run.FailsIff.mapM (readStatus_failsIff index) l).exists_returns]
  simp

theorem readRest_breaksBy [Host] {index : Nat} {m : Members} {source : Value} {kind : Kind}
    (tells : TellsPattern m source) :
    (readRest index m source.text kind).BreaksBy (RuleBreaks (.object m)) := by
  have severities := entries_breaksBy m "severity_map"
  have words := entries_breaksBy m "status_map"
  have statuses (o : Members) := mapM_readStatus_breaksBy index o
  have pattern := Pattern.compile_breaksBy source.text
  unfold readRest
  refine (severities.bind fun _ _ => words.bind fun o _ => (statuses o).bind fun _ _ =>
    pattern.bind fun _ _ => .of_pure _).congr fun e => ?_
  simp only [returns_entries]
  constructor
  · rintro (⟨noMap, rfl⟩ | ⟨o, ⟨first, -⟩, ⟨noMap, rfl⟩ |
      ⟨_, ⟨second, rfl⟩, never | ⟨statuses, done, overtaxes | ⟨_, _, never⟩⟩⟩⟩)
    · exact .map tells (.inl noMap)
    · exact .map tells (.inr noMap)
    · exact never.elim
    · have known := (exists_returns_mapM_readStatus index _).mp ⟨statuses, done⟩
      exact .pattern tells (by simp [first, second]) known overtaxes
    · exact never.elim
  · intro breaks
    cases breaks with
    | map tells noMap =>
      by_cases first : IsNoMap m "severity_map"
      · exact .inl ⟨first, rfl⟩
      · exact .inr ⟨_, ⟨first, rfl⟩, .inl ⟨noMap.resolve_left first, rfl⟩⟩
    | pattern others maps known overtaxes =>
      obtain ⟨first, second⟩ := not_or.mp maps
      obtain ⟨statuses, done⟩ := (exists_returns_mapM_readStatus index _).mpr known
      obtain rfl : source = _ := Option.some.inj (tells.1.symm.trans others.1)
      exact .inr ⟨_, ⟨first, rfl⟩, .inr ⟨_, ⟨second, rfl⟩, .inr ⟨statuses, done, .inl overtaxes⟩⟩⟩

theorem readRule_cases [Host] (index : Nat) (m : Members) :
    (∃ source kind, TellsPattern m source ∧
      readRule index (.object m) = readRest index m source.text kind) ∨
    ((∀ source, ¬TellsPattern m source) ∧
      ∃ fault, readRule index (.object m) = throw (.config fault)) := by
  cases regex : given? m "regex" with
  | none =>
    refine .inr ⟨by simp [TellsPattern, regex], .ruleLacks index "regex", ?_⟩
    simp only [readRule, regex]
  | some source =>
    cases told : given? m "event_type" with
    | none =>
      refine .inr ⟨by simp [TellsPattern, told], .ruleLacks index "event_type", ?_⟩
      simp only [readRule, regex, told]
    | some kindText =>
      cases known : Kind.ofName? kindText.text with
      | none =>
        refine .inr ⟨by simp [TellsPattern, told, known], .unknownKind index kindText.text, ?_⟩
        simp only [readRule, regex, told, known]
      | some kind =>
        refine .inl ⟨source, kind, ⟨regex, kindText, told, by simp [known]⟩, ?_⟩
        simp only [readRule, regex, told, known]

theorem readRule_breaksBy [Host] (index : Nat) (v : Value) :
    (readRule index v).BreaksBy (RuleBreaks v) := by
  cases v with
  | object m =>
    rcases readRule_cases index m with ⟨source, kind, tells, read⟩ | ⟨untold, fault, gives⟩
    · rw [read]
      exact readRest_breaksBy tells
    · rw [gives]
      refine (Run.BreaksBy.of_config fault).congr fun e => ⟨False.elim, ?_⟩
      rintro (⟨tells, -⟩ | ⟨tells, -⟩)
      all_goals exact untold _ tells
  | _ => exact (Run.BreaksBy.of_config _).congr fun e => ⟨False.elim, by rintro ⟨⟩⟩

theorem demand_breaksBy (x : Except ConfigError α) : (demand x).BreaksBy fun _ => False := by
  cases x with
  | ok a => exact .of_pure a
  | error e => exact .of_config e

theorem returns_demand {x : Except ConfigError α} {a : α} :
    (demand x).Returns a ↔ x = .ok a := by
  cases x with
  | ok b => simp [demand]
  | error e => simp [demand]

inductive PatternBreaks [Host] : Members → Fault → Prop
  | notText {d v} (given : given? d "regex" = some v) (other : ∀ s, v ≠ .string s) :
      PatternBreaks d .patternNotText
  | overtaxes {d source e} (given : given? d "regex" = some (.string source))
      (overtaxes : Overtaxes source e) : PatternBreaks d e

theorem readPattern?_breaksBy [Host] (d : Members) :
    (readPattern? d).BreaksBy (PatternBreaks d) := by
  unfold readPattern?
  cases given : given? d "regex" with
  | none =>
    refine (Run.BreaksBy.of_pure none).congr fun e => ⟨False.elim, ?_⟩
    rintro (⟨found, -⟩ | ⟨found, -⟩)
    all_goals
      rw [given] at found
      cases found
  | some v =>
    cases v with
    | string source =>
      refine ((Pattern.compile_breaksBy source).bind_pure some).congr fun e =>
        ⟨.overtaxes given, ?_⟩
      rintro (⟨found, other⟩ | ⟨found, overtaxes⟩)
      · exact absurd (Option.some.inj (found.symm.trans given)) (other source)
      · cases found.symm.trans given
        exact overtaxes
    | _ =>
      refine (Run.BreaksBy.of_throw rfl).congr fun e => ⟨?_, ?_⟩
      · rintro rfl
        exact .notText given (by simp)
      · rintro (⟨-, -⟩ | ⟨found, -⟩)
        · rfl
        · cases found.symm.trans given

def ListsTexts (d : Members) : Prop :=
  ∃ anyOf allOf, texts d "contains" [] = .ok anyOf ∧ texts d "contains_all" [] = .ok allOf

theorem readDemands_breaksBy [Host] (d : Members) :
    (readDemands d).BreaksBy fun e => ListsTexts d ∧ PatternBreaks d e := by
  have anyOf := demand_breaksBy (texts d "contains" [])
  have allOf := demand_breaksBy (texts d "contains_all" [])
  unfold readDemands
  refine (anyOf.bind fun _ _ => allOf.bind fun _ _ => (readPattern?_breaksBy d).bind_pure _).congr
    fun e => ?_
  simp [returns_demand, ListsTexts, and_assoc]

def TellsDemands (m d : Members) : Prop :=
  (given? m "detection" = none ∧ d = []) ∨ given? m "detection" = some (.object d)

theorem readDetection_breaksBy [Host] (m : Members) :
    (readDetection m).BreaksBy fun e =>
      ∃ d, TellsDemands m d ∧ ListsTexts d ∧ PatternBreaks d e := by
  unfold readDetection TellsDemands
  cases given : given? m "detection" with
  | none => exact (readDemands_breaksBy []).congr (by simp)
  | some v =>
    cases v with
    | object d => exact (readDemands_breaksBy d).congr (by simp)
    | _ => exact (Run.BreaksBy.of_config _).congr (by simp)

theorem readName_breaksBy (m : Members) : (readName m).BreaksBy fun _ => False := by
  unfold readName
  split
  · split
    · exact .of_config _
    · exact .of_pure _
  · exact .of_config _

theorem readItems_breaksBy (m : Members) : (readItems m).BreaksBy fun _ => False := by
  unfold readItems
  split
  · exact .of_config _
  · exact .of_pure _
  · exact .of_config _

theorem readPriority_breaksBy (m : Members) : (readPriority m).BreaksBy fun _ => False := by
  unfold readPriority
  split
  · exact .of_pure _
  · exact .of_config _

structure HasRules (m : Members) (items : List Value) : Prop where
  name : ∃ name, m.get? "name" = some (.string name) ∧ isBlankText name = false
  items : m.get? "patterns" = some (.array items) ∧ items ≠ []
  priority : ∃ n, (m.get? "priority").getD (.int 50) = .int n

theorem exists_returns_readName {m : Members} :
    (∃ name, (readName m).Returns name) ↔
      ∃ name, m.get? "name" = some (.string name) ∧ isBlankText name = false := by
  unfold readName
  split
  next name found => cases blank : isBlankText name <;> simp [found, blank]
  next other => simp_all

theorem returns_readItems {m : Members} {items : List Value} :
    (readItems m).Returns items ↔ m.get? "patterns" = some (.array items) ∧ items ≠ [] := by
  unfold readItems
  split
  next missing =>
    have absent : m.get? "patterns" ≠ some (.array items) := by
      intro found
      simp [found] at missing
    simp [absent]
  next item rest found =>
    have told : m.get? "patterns" = some (.array (item :: rest)) := by
      cases given : m.get? "patterns" with
      | none => simp [given] at found
      | some v => simpa [given] using found
    simp only [Run.returns_pure, told, Option.some.injEq, Value.array.injEq]
    constructor
    · rintro rfl
      exact ⟨rfl, List.cons_ne_nil item rest⟩
    · exact And.left
  next missing other =>
    have absent : ¬(m.get? "patterns" = some (.array items) ∧ items ≠ []) := by
      rintro ⟨found, filled⟩
      obtain ⟨item, rest, rfl⟩ := List.exists_cons_of_ne_nil filled
      exact other item rest (by simp [found])
    simp [absent]

theorem exists_returns_readPriority {m : Members} :
    (∃ n, (readPriority m).Returns n) ↔ ∃ n, (m.get? "priority").getD (.int 50) = .int n := by
  unfold readPriority
  split
  next n told => simp [told]
  next other => simpa using fun n told => other n told

theorem hasRules_iff {m : Members} {items : List Value} :
    HasRules m items ↔ (∃ name, (readName m).Returns name) ∧ (readItems m).Returns items ∧
      ∃ n, (readPriority m).Returns n := by
  rw [exists_returns_readName, returns_readItems, exists_returns_readPriority]
  exact ⟨fun ⟨name, items, priority⟩ => ⟨name, items, priority⟩,
    fun ⟨name, items, priority⟩ => ⟨name, items, priority⟩⟩

/-- Documents that are objects and are given up without a message. What comes first counts. -/
inductive MembersBreak [Host] : Members → Fault → Prop
  | demands {m items d e} (told : HasRules m items) (demands : TellsDemands m d)
      (lists : ListsTexts d) (breaks : PatternBreaks d e) : MembersBreak m e
  | rule {m items d e} {i : Nat} {v : Value} (told : HasRules m items)
      (detected : (readDetection m).Returns d) (place : items[i]? = some v)
      (earlier : ∀ j < i, ∀ w, items[j]? = some w → ∃ r, (readRule j w).Returns r)
      (breaks : RuleBreaks v e) : MembersBreak m e

inductive Breaks [Host] : String → Fault → Prop
  | digits {text} (read : Json.read text = .error .tooManyDigits) :
      Breaks text (.number .tooManyDigits)
  | depth {text} (read : Json.read text = .error .tooDeep) : Breaks text .tooDeep
  | members {text m e} (read : Json.read text = .ok (.object m)) (breaks : MembersBreak m e) :
      Breaks text e

theorem readRules_breaksBy [Host] (items : List Value) :
    ((items.mapIdx fun i v => (i, v)).mapM fun (i, v) => readRule i v).BreaksBy fun e =>
      ∃ (i : Nat) (v : Value), items[i]? = some v ∧
        (∀ j < i, ∀ w, items[j]? = some w → ∃ r, (readRule j w).Returns r) ∧ RuleBreaks v e := by
  have each (entry : Nat × Value) : (readRule entry.1 entry.2).BreaksBy (RuleBreaks entry.2) :=
    readRule_breaksBy entry.1 entry.2
  refine (Run.BreaksBy.mapM fun entry _ => each entry).congr fun e => ?_
  simp only [List.getElem?_mapIdx, Option.map_eq_some_iff, Prod.exists, Prod.mk.injEq]
  constructor
  · rintro ⟨i, _, v, ⟨w, place, rfl, rfl⟩, earlier, breaks⟩
    refine ⟨i, w, place, fun j before u found => ?_, breaks⟩
    exact earlier j before (j, u) ⟨u, found, rfl⟩
  · rintro ⟨i, v, place, earlier, breaks⟩
    refine ⟨i, i, v, ⟨v, place, rfl, rfl⟩, ?_, breaks⟩
    rintro j before _ ⟨w, found, rfl⟩
    exact earlier j before w found

theorem ofMembers_breaksBy [Host] (m : Members) : (ofMembers m).BreaksBy (MembersBreak m) := by
  have name := readName_breaksBy m
  have items := readItems_breaksBy m
  have priority := readPriority_breaksBy m
  have detection := readDetection_breaksBy m
  have rules (items : List Value) := readRules_breaksBy items
  have aliases := demand_breaksBy (texts m "aliases" [])
  have groups := demand_breaksBy (texts m "groups" ["custom"])
  unfold ofMembers
  refine (name.bind fun _ _ => items.bind fun items _ => priority.bind fun _ _ =>
    detection.bind fun _ _ => (rules items).bind fun _ _ => aliases.bind fun _ _ =>
    groups.bind_pure _).congr fun e => ?_
  simp only [false_or, or_false, exists_and_right, exists_false, and_false]
  constructor
  · rintro ⟨named, items, listed, ranked, ⟨d, demands, lists, breaks⟩ |
      ⟨⟨d, detected⟩, i, v, place, earlier, breaks⟩⟩
    · exact .demands (hasRules_iff.mpr ⟨named, listed, ranked⟩) demands lists breaks
    · exact .rule (hasRules_iff.mpr ⟨named, listed, ranked⟩) detected place earlier breaks
  · rintro (⟨told, demands, lists, breaks⟩ | ⟨told, detected, place, earlier, breaks⟩)
    all_goals obtain ⟨named, listed, ranked⟩ := hasRules_iff.mp told
    · exact ⟨named, _, listed, ranked, .inl ⟨_, demands, lists, breaks⟩⟩
    · exact ⟨named, _, listed, ranked, .inr ⟨⟨_, detected⟩, _, _, place, earlier, breaks⟩⟩

theorem breaks_iff [Host] {text : String} {e : Fault} :
    Breaks text e ↔
      (Json.read text = .error .tooManyDigits ∧ e = .number .tooManyDigits) ∨
      (Json.read text = .error .tooDeep ∧ e = .tooDeep) ∨
      ∃ m, Json.read text = .ok (.object m) ∧ MembersBreak m e := by
  constructor
  · rintro (read | read | ⟨read, breaks⟩)
    · exact .inl ⟨read, rfl⟩
    · exact .inr (.inl ⟨read, rfl⟩)
    · exact .inr (.inr ⟨_, read, breaks⟩)
  · rintro (⟨read, rfl⟩ | ⟨read, rfl⟩ | ⟨m, read, breaks⟩)
    · exact .digits read
    · exact .depth read
    · exact .members read breaks

theorem read_breaksBy [Host] (text : String) : (read text).BreaksBy (Breaks text) := by
  unfold read
  cases found : Json.read text with
  | ok v =>
    cases v with
    | object m => exact (ofMembers_breaksBy m).congr (by simp [breaks_iff, found])
    | _ => exact (Run.BreaksBy.of_config _).congr (by simp [breaks_iff, found])
  | error cause =>
    cases cause with
    | malformed m => exact (Run.BreaksBy.of_config _).congr (by simp [breaks_iff, found])
    | _ => exact (Run.BreaksBy.of_throw rfl).congr (by simp [breaks_iff, found])

-- What is asked of a log is read before the rules, so nothing is told of a rule that is no object.
example :
    let text := "\x7b\"name\": \"t\", \"patterns\": [\"\"], " ++
      "\"detection\": \x7b\"regex\": [\"\"]\x7d\x7d"
    (read text).result = (.error .patternNotText, #[]) := by cbv

end RuleSet

end BuildLog
