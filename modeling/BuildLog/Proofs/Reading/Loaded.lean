import BuildLog.Proofs.Reading.File
import BuildLog.Proofs.Registry.Naming

/-! Reading logs by the name of a loaded document. The name is found in the registry whatever it
is, but a specifier is taken apart before it is looked up: it may be a word or a list with a meaning
of its own, or a group, and the loaded rules are then passed by. -/
namespace BuildLog

open Text

namespace Specifier

theorem parts_of_isPattern {text : String} (pattern : isPattern text = true) :
    parts text = [text] := by
  simp only [parts, pattern, if_true]

theorem parts_of_plain {text : String} (plain : isPattern text = false) :
    parts text = pieces ',' text := by
  simp only [parts, plain, Bool.false_eq_true, if_false]

/-- What follows the mark of a pattern is the pattern. -/
theorem ofText_marked {source : String}
    (plain : stripped (patternMark ++ source) = patternMark ++ source) :
    isPattern (patternMark ++ source) = true ∧
      ofText (patternMark ++ source) = .pattern source := by
  have begins : patternMark.toList <+: (patternMark ++ source).toList := by
    rw [String.toList_append]
    exact List.prefix_append _ _
  have not_word (word : String) (other : ¬patternMark.toList <+: word.toList) :
      patternMark ++ source ≠ word := fun same => other (same ▸ begins)
  have not_empty := not_word "" (by decide)
  have not_unknown := not_word "unknown" (by decide)
  have not_auto := not_word "auto" (by decide)
  have rest : (patternMark ++ source).toList.drop patternMark.toList.length = source.toList := by
    rw [String.toList_append, List.drop_left]
  constructor
  · simpa only [isPattern, plain, startsWith, List.isPrefixOf_iff_prefix] using begins
  · have marked : dropStart? patternMark.toList (patternMark ++ source).toList =
        some source.toList := by
      rw [dropStart?, if_pos (List.isPrefixOf_iff_prefix.mpr begins), rest]
    simp only [ofText, plain, marked, String.isEmpty_eq_false_iff.mpr not_empty,
      beq_eq_false_iff_ne.mpr not_unknown, beq_eq_false_iff_ne.mpr not_auto, Bool.or_self,
      Bool.false_eq_true, if_false, String.ofList_toList]

end Specifier

theorem Registry.accepts_of_single {g : Registry} {text : String} {s : Specifier}
    (single : Specifier.parts text = [text]) (read : Specifier.ofText text = s) :
    g.accepts text = s.isValid g := by
  simp [accepts, single, read]

theorem Context.parse_of_single [Host] {c : Context} {text : String} {s : Specifier}
    (single : Specifier.parts text = [text]) (read : Specifier.ofText text = s)
    (content : String) :
    c.parse content text = c.runResolution content (c.registry.resolve s) := by
  rw [parse, single, runParts_singleton, read]

structure Specifier.IsPlainName (name : String) : Prop where
  notUnknown : name ≠ "unknown"
  notAuto : name ≠ "auto"
  unmarked : isPattern name = false
  whole : ',' ∉ name.toList

theorem Specifier.IsPlainName.ofText_eq {name : String} (plain : IsPlainName name)
    (filled : name.isEmpty = false) (trimmed : stripped name = name) :
    ofText name = .named name := by
  rw [ofText_of_plain plain.unmarked, trimmed]
  simp [trimmed, plain.notUnknown, plain.notAuto, String.isEmpty_eq_false_iff.mp filled]

namespace Context

open Specifier (IsPlainName parts patternMark)

theorem parse_plainName [Host] {c : Context} {name : String} {r : Registration}
    (plain : IsPlainName name) (filled : name.isEmpty = false) (trimmed : stripped name = name)
    (found : c.registry.find? name = some r) :
    c.registry.accepts name = true ∧ ∀ content, c.parse content name =
      if c.registry.isGroup name then c.runFirst content (c.registry.inGroup name)
      else c.run r.format content := by
  have single := Specifier.parts_eq_singleton plain.whole
  have read := plain.ofText_eq filled trimmed
  constructor
  · rw [Registry.accepts_of_single single read]
    simp [Specifier.isValid, Registry.has, found]
  · intro content
    rw [parse_of_single single read]
    cases group : c.registry.isGroup name with
    | true =>
      rw [Registry.resolve_group group]
      rfl
    | false =>
      rw [Registry.resolve_format group found]
      rfl

/-- Whatever calls of the catalog came before, a document that comes in is found by its name. To
read a log by the name is to run the new rules on it if the name is plain and no group. A name that
is a group stands for the formats of the group; other names keep the meaning that they have as
specifiers, and one of them is no valid format. -/
theorem parse_loadedName [Host] (told : Array Notice) (calls : List Registry.Call)
    {text name : String}
    {g : Registry} (loaded : ((Registry.standard.callAll told calls).load text).Returns (name, g)) :
    (∃ r, g.find? name = some r ∧ r ∉ (Registry.standard.callAll told calls).entries ∧
      (∃ rules, (RuleSet.read text).Returns rules ∧ r.format = rules.format) ∧
      (IsPlainName name → g.accepts name = true ∧ ∀ (c : Context) content, c.registry = g →
        c.parse content name =
          if g.isGroup name then c.runFirst content (g.inGroup name)
          else c.run r.format content)) ∧
    (name = "unknown" → g.accepts name = false ∧
      ∀ (c : Context) content, c.parse content name = pure []) ∧
    (name = "auto" → g.accepts name = true ∧
      ∀ (c : Context) content, c.parse content name = c.runDetected content) ∧
    (∀ source, name = patternMark ++ source → g.accepts name = !source.isEmpty ∧
      ∀ (c : Context) content, c.parse content name = Format.AdHoc.parse source false content) ∧
    (Specifier.isPattern name = false → ',' ∈ name.toList →
      g.accepts name = (pieces ',' name).any (fun part => (Specifier.ofText part).isValid g) ∧
      ∀ (c : Context) content, c.parse content name = c.runParts content (pieces ',' name)) := by
  obtain ⟨r, loading⟩ := (Registry.callAll_standing told calls).isLoading loaded
  obtain ⟨filled, trimmed⟩ := loading.plain
  refine ⟨⟨r, loading.leads, loading.isNew, loading.rules, fun plain => ?_⟩, ?_, ?_, ?_, ?_⟩
  · have valid := parse_plainName (c := { registry := g }) plain filled trimmed loading.leads
    refine ⟨valid.1, ?_⟩
    rintro c content rfl
    exact (parse_plainName plain filled trimmed loading.leads).2 content
  · rintro rfl
    have single : parts "unknown" = ["unknown"] := by decide
    have read : Specifier.ofText "unknown" = .unknown := by decide
    exact ⟨Registry.accepts_of_single single read, fun c => parse_of_single single read⟩
  · rintro rfl
    have single : parts "auto" = ["auto"] := by decide
    have read : Specifier.ofText "auto" = .auto := by decide
    exact ⟨Registry.accepts_of_single single read, fun c => parse_of_single single read⟩
  · rintro source rfl
    obtain ⟨pattern, read⟩ := Specifier.ofText_marked trimmed
    have single := Specifier.parts_of_isPattern pattern
    exact ⟨Registry.accepts_of_single single read, fun c => parse_of_single single read⟩
  · intro unmarked _
    have split := Specifier.parts_of_plain unmarked
    exact ⟨by rw [Registry.accepts, split], fun c content => by rw [parse, split]⟩

/-- The rule of such a document finds the one letter that it looks for. -/
theorem run_ruled [Host] (name : String) (aliases : List String) (s : Surroundings)
    (lines : Line.read s.limit "x" = [⟨1, "x", false⟩]) :
    ∃ e, (Registry.ruledSet name aliases).format.run s "x" = pure [e] := by
  let rules := Registry.ruledSet name aliases
  obtain ⟨m, found⟩ : ∃ m,
      Registry.capturedRule.pattern.searchWithin Line.defaultLimit "x" = some m :=
    Option.isSome_iff_exists.mp (by decide)
  have first : rules.firstMatch? "x" = some (Registry.capturedRule, m) := by
    simp [rules, RuleSet.firstMatch?, Registry.ruledSet, found]
  obtain ⟨e, made⟩ : ∃ e, Registry.capturedRule.eventOf rules.profile m "x" 1 1 = pure e :=
    ⟨_, rfl⟩
  refine ⟨e, ?_⟩
  calc rules.format.run s "x"
      = rules.parseLine.events (Line.read s.limit "x") := by
        simp [Format.run, RuleSet.format, Format.ofLines, rules, Registry.ruledSet,
          RuleSet.profileOf, Family.payload]
    _ = pure [e] := by
        simp [lines, LineReader.events, LineReader.eventsFrom, RuleSet.parseLine, first, made]

/-- A document that is named like the group that its own format is put into. -/
theorem parse_loadedName_custom :
    ∃ r g, (Registry.standard.load (Registry.ruledText "custom" "")).Returns ("custom", g) ∧
      g.find? "custom" = some r ∧ g.accepts "custom" = true ∧
      ({ registry := g } : Context).parse "x" "custom" = pure [] ∧
      ∃ e, ({ registry := g } : Context).run r.format "x" = pure [e] := by
  let f := (Registry.ruledSet "custom" []).format
  let g := Registry.standard.register f
  have loaded :
      (Registry.standard.load (Registry.ruledText "custom" "")).Returns ("custom", g) := by
    have absent : Registry.standard.unregister? "custom" = none := rfl
    rw [Registry.load_ruled _ _ "custom" [] (Registry.document_read (by decide)) (by decide)
      (by decide) (by decide), absent, Option.getD_none]
    exact Run.returns_pure.mpr rfl
  have first : ((Registry.standard.callAll #[] []).load (Registry.ruledText "custom" "")).Returns
      ("custom", g) := by rwa [Registry.callAll_nil]
  obtain ⟨⟨r, leads, -, -, named⟩, -⟩ := parse_loadedName #[] [] first
  obtain ⟨valid, read⟩ := named ⟨by decide, by decide, by decide, by decide⟩
  have own : r.format = f := by
    rw [Registry.find?_register _ (by decide), if_pos (by decide)] at leads
    rw [← Option.some.inj leads]
  have group : g.isGroup "custom" = true :=
    Registry.isGroup_register _ (by decide) (by decide)
  -- The new rules are the group's only member, and as they demand nothing they accept no log.
  have silent : ∀ r ∈ g.inGroup "custom", r.format.acceptsLog "x" = pure false := by
    intro r member
    rw [Registry.inGroup_register Registry.standard_standing.consistent (by decide) r member]
    exact RuleSet.acceptsLog_eq_false rfl "x"
  refine ⟨r, g, loaded, leads, valid, ?_, ?_⟩
  · rw [read { registry := g } "x" rfl, if_pos group, runFirst_eq_nil _ silent]
  · rw [own]
    exact run_ruled "custom" [] (Context.surroundings { registry := g }) (by cbv)

end Context

end BuildLog
