import BuildLog.Proofs.Json.RoundTrip
import BuildLog.Proofs.Registry.Commands
import BuildLog.Proofs.Resolution

/-! What the names of formats that are always known mean after a run of the catalog. Documents are
kept away from these names and aliases, but not from using one as a group; a name is a group before
it is a format, and this is the one way in which it can come to mean something else. -/
namespace BuildLog.Registry

/-- Formats without commands may be left out of the search for one that a command points at. -/
theorem matching?_filter [Host] (command : String) (p : Registration → Bool) (l : List Registration)
    (silent : ∀ r ∈ l, p r = false → r.profile.commands = []) :
    matching? command (l.filter p) = matching? command l := by
  induction l with
  | nil => rfl
  | cons r rest ih =>
    have later := ih fun r member => silent r (by simp [member])
    cases chosen : p r with
    | true => simp [chosen, matching?, later]
    | false =>
      have none := silent r (by simp) chosen
      simp [chosen, matching?, matchesCommand, later, none]

namespace Standing

variable {g : Registry}

theorem ranked_builtins [Host] (valid : g.Standing) :
    g.ranked.filter (·.profile.isBuiltin) = standard.ranked := by
  rw [valid.consistent.ranked_eq, standard_standing.consistent.ranked_eq, ← valid.builtins]
  exact Sorting.filter_mergeSort_comm ranksBefore_ranking _ _

theorem byCommand_eq [Host] (valid : g.Standing) : g.byCommand = standard.byCommand := by
  funext command
  have silent : ∀ r ∈ g.ranked, r.profile.isBuiltin = false → r.profile.commands = [] := by
    intro r member added
    exact (valid.loaded r ((mem_ranked valid.consistent).mp member) added).1.commands
  rw [valid.consistent.byCommand_eq_matching?, standard_standing.consistent.byCommand_eq_matching?,
    ← valid.ranked_builtins, matching?_filter _ _ _ silent]

theorem surroundings_eq [Host] (valid : g.Standing) (limit : Int) :
    g.surroundings limit = standard.surroundings limit := by
  simp only [surroundings, valid.byCommand_eq]

end Standing

theorem standard_formats [Host] : standard.entries.map (·.format) = Format.builtins := by rfl

/-- No key is one of two formats that are always known. -/
theorem standard_eq_of_key [Host] {r owner : Registration} (known : r ∈ standard.entries)
    (listed : owner ∈ standard.entries) {key : String} (own : key ∈ r.profile.keys)
    (owned : key ∈ owner.profile.keys) : owner = r := by
  have apart : ∀ p ∈ builtinProfiles, ∀ q ∈ builtinProfiles, ∀ key ∈ p.keys, key ∈ q.keys →
      q.format = p.format := by decide
  have names : (standard.entries.map (·.profile.format)).Nodup := by
    have distinct : (builtinProfiles.map (·.format)).Nodup := by decide
    rwa [← standard_profiles, List.map_map] at distinct
  have profile {x : Registration} (member : x ∈ standard.entries) : x.profile ∈ builtinProfiles :=
    standard_profiles ▸ List.mem_map_of_mem member
  exact List.inj_on_of_nodup_map names listed known
    (apart _ (profile known) _ (profile listed) key own owned)

theorem standard_has [Host] : ∀ key ∈ builtinKeys, standard.has key = true :=
  of_decide_eq_true rfl

/-- No key of a format that is always known has come to stand for another one. -/
theorem Standing.find?_standard [Host] {g : Registry} (valid : g.Standing) {r : Registration}
    (known : r ∈ standard.entries) {key : String} (own : key ∈ r.profile.keys) :
    g.find? key = some r := by
  have listed := standard_keys r known key own
  obtain ⟨owner, found⟩ := Option.isSome_iff_exists.mp (standard_has key listed)
  obtain ⟨member, owned⟩ := standard_standing.find?_mem found
  rw [valid.find?_builtin listed, found, standard_eq_of_key known member own owned]

theorem builtinKeys_whole [Host] : ∀ key ∈ builtinKeys, ',' ∉ key.toList := by
  rw [builtinKeys_eq]
  decide

theorem builtinKeys_ofText [Host] : ∀ key ∈ builtinKeys, Specifier.ofText key = .named key := by
  rw [builtinKeys_eq]
  decide

theorem standard_isGroup [Host] : ∀ key ∈ builtinKeys, standard.isGroup key = false := by
  have apart : ∀ key ∈ builtinProfiles.flatMap Profile.keys, ∀ q ∈ builtinProfiles,
      ¬q.groups.contains key := by decide
  intro key known
  rw [builtinKeys_eq] at known
  exact List.any_eq_false.mpr (forall_standard (apart key known))

theorem parse_builtinKey [Host] (c : Context) (content : String) {key : String}
    (known : key ∈ builtinKeys) :
    c.parse content key = c.runResolution content (c.registry.resolve (.named key)) := by
  rw [Context.parse, Specifier.parts_eq_singleton (builtinKeys_whole key known),
    Context.runParts_singleton, builtinKeys_ofText key known]

/-- The members of a group that is named like a format that is always known were all loaded. -/
theorem Standing.inGroup_added [Host] {g : Registry} (valid : g.Standing) {key : String}
    (known : key ∈ builtinKeys) : ∀ r ∈ g.inGroup key, r ∈ g.entries ∧ IsLoaded r := by
  intro r member
  obtain ⟨ranked, tagged⟩ := List.mem_filter.mp member
  rw [mem_ranked valid.consistent] at ranked
  cases builtin : r.profile.isBuiltin with
  | false => exact ⟨ranked, (valid.loaded r ranked builtin).1⟩
  | true =>
    have apart := standard_isGroup key known
    rw [isGroup, List.any_eq_false] at apart
    exact absurd tagged (apart r (valid.mem_standard ranked builtin))

/-- After any calls of the catalog a name or an alias of a format that is always known is read as
it always was, unless a loaded document has it as a group. Then the log is read by the formats of
this group alone, and none of these is always known. -/
theorem parse_builtinKey_callAll [Host] (told : Array Notice) (calls : List Call) {key : String}
    (known : key ∈ builtinKeys) (c : Context) (content : String) :
    let g := standard.callAll told calls
    ({ c with registry := g } : Context).parse content key =
      (if g.isGroup key then ({ c with registry := g } : Context).runFirst content (g.inGroup key)
      else ({ c with registry := standard } : Context).parse content key) ∧
    ∀ r ∈ g.inGroup key, r ∈ g.entries ∧ IsLoaded r := by
  intro g
  have valid : g.Standing := callAll_standing told calls
  refine ⟨?_, valid.inGroup_added known⟩
  cases group : g.isGroup key with
  | true =>
    rw [parse_builtinKey _ _ known, resolve_group group]
    rfl
  | false =>
    obtain ⟨r, found⟩ := Option.isSome_iff_exists.mp (standard_has key known)
    rw [parse_builtinKey _ _ known, parse_builtinKey _ _ known,
      resolve_format group (valid.find?_builtin known ▸ found),
      resolve_format (standard_isGroup key known) found]
    simp only [Context.runResolution, Context.run, Context.surroundings, valid.surroundings_eq,
      Bool.false_eq_true, if_false]

/-- A document that has the name of a format as a group and demands nothing of a log, so that it
accepts none. -/
def capturing : String :=
  "\x7b\"name\": \"mine\", \"groups\": [\"flake8_text\"], \"patterns\": " ++
    "[\x7b\"regex\": \"x\", \"event_type\": \"summary\"\x7d]\x7d"

def capturingRule : Json.Members := [("regex", .string "x"), ("event_type", .string "summary")]

def capturingMembers : Json.Members :=
  [("name", .string "mine"), ("groups", .array [.string "flake8_text"]),
    ("patterns", .array [.object capturingRule])]

def capturedRule : Rule where
  name := "pattern_0"
  pattern := ⟨"x", .one (.char 'x'), 0, []⟩
  kind := .summary
  severity := ""
  severities := []
  statuses := []

theorem readRule_capturing [Host] :
    RuleSet.readRule 0 (.object capturingRule) = pure capturedRule := by
  have regex : RuleSet.given? capturingRule "regex" = some (.string "x") := rfl
  have event : RuleSet.given? capturingRule "event_type" = some (.string "summary") := rfl
  have known : Kind.ofName? "summary" = some .summary := by decide +kernel
  have compiled : Pattern.compile "x" = pure capturedRule.pattern :=
    Pattern.compile_eq_pure (by cbv) (by cbv)
  have severities : RuleSet.entries capturingRule "severity_map" = pure [] := rfl
  have statuses : RuleSet.entries capturingRule "status_map" = pure [] := rfl
  simp only [RuleSet.readRule, RuleSet.readRest, regex, event, Json.Value.text, known, compiled,
    severities, statuses, pure_bind, List.mapM_nil]
  rfl

theorem capturingRule_isTextual : (Json.Value.object capturingRule).IsTextual 1 := by
  refine .object (by decide) ?_
  simp [capturingRule, Json.Value.IsTextual.string]

theorem capturing_isTextual : (Json.Value.object capturingMembers).IsTextual 3 := by
  refine .object (by decide) ?_
  simp only [capturingMembers, List.forall_mem_cons]
  exact ⟨.string _, .strings ["flake8_text"], .array (by simpa using capturingRule_isTextual),
    nofun⟩

theorem read_capturingText : Json.read capturing = .ok (.object capturingMembers) := by
  have written : capturing = (Json.Value.object capturingMembers).line := by decide
  rw [written]
  exact Json.read_line capturing_isTextual (by decide)

theorem read_capturing :
    ∃ rules, RuleSet.read capturing = pure rules ∧ rules.profile.keys = ["mine"] ∧
      rules.profile.groups = ["flake8_text"] ∧ rules.detection = {} := by
  have name : RuleSet.readName capturingMembers = pure "mine" := rfl
  have items : RuleSet.readItems capturingMembers = pure [.object capturingRule] := rfl
  have priority : RuleSet.readPriority capturingMembers = pure 50 := rfl
  have detection : RuleSet.readDetection capturingMembers = pure {} := rfl
  have aliases : RuleSet.demand (RuleSet.texts capturingMembers "aliases" []) = pure [] := rfl
  have groups : RuleSet.demand (RuleSet.texts capturingMembers "groups" ["custom"]) =
      pure ["flake8_text"] := rfl
  simp only [RuleSet.read, read_capturingText, RuleSet.ofMembers, name, items, priority, detection,
    aliases, groups, pure_bind, List.mapIdx_cons, List.mapIdx_nil, List.mapM_cons, List.mapM_nil,
    readRule_capturing]
  exact ⟨_, rfl, rfl, rfl, rfl⟩

/-- To take out the format itself is refused, and the document comes in. -/
def capturingCalls : List Call := [.unload "flake8", .load capturing]

theorem callAll_capturingCalls :
    ∃ rules : RuleSet, standard.callAll #[] capturingCalls = standard.register rules.format ∧
      rules.profile.format = "mine" ∧ rules.profile.groups = ["flake8_text"] ∧
      rules.detection = {} := by
  obtain ⟨rules, read, keys, groups, idle⟩ := read_capturing
  have named : rules.profile.format = "mine" := (List.cons.inj keys).1
  have free : standard.protectedKey? rules.profile = none := by
    rw [protectedKey?, keys]
    rfl
  have absent : standard.unregister? "mine" = none := by rfl
  have kept (told : Array Notice) : call (standard, told) (.unload "flake8") =
      (standard, told.push (.builtinKept "flake8")) := by rfl
  have loaded (told : Array Notice) : call (standard, told) (.load capturing) =
      (standard.register rules.format, told) := by
    simp only [call, load_eq_pure read free, named, absent, Option.getD_none, Run.pure_apply]
  refine ⟨rules, ?_, named, groups, idle⟩
  simp only [callAll, capturingCalls, List.foldl_cons, List.foldl_nil, kept, loaded]

/-- The report on a clean log is lost once the document has come in. -/
theorem parse_flake8_text_capturingCalls :
    "flake8_text" ∈ builtinKeys ∧
    let g := standard.callAll #[] capturingCalls
    g.isGroup "flake8_text" = true ∧
    ({ registry := g } : Context).parse "" "flake8_text" = pure [] ∧
    ({ registry := standard } : Context).parse "" "flake8_text" =
      pure [Format.Flake8.summary []] := by
  have known : "flake8_text" ∈ builtinKeys := by decide
  have apart := standard_isGroup "flake8_text" known
  have outcome := (parse_builtinKey_callAll #[] capturingCalls known {} "").1
  obtain ⟨rules, after, named, groups, idle⟩ := callAll_capturingCalls
  have captured : (standard.register rules.format).isGroup "flake8_text" = true := by
    apply isGroup_register
    · change rules.profile.format.isEmpty = false
      rw [named]
      decide
    · change "flake8_text" ∈ rules.profile.groups
      simp [groups]
  have silent : ∀ r ∈ (standard.register rules.format).inGroup "flake8_text",
      r.format.acceptsLog "" = pure false := by
    intro r member
    rw [inGroup_register standard_standing.consistent apart r member]
    exact RuleSet.acceptsLog_eq_false idle ""
  have found : standard.find? "flake8_text" = some ⟨4, Format.Flake8.format⟩ := by rfl
  simp only [after, captured, if_true] at outcome
  simp only [after]
  refine ⟨known, captured, ?_, ?_⟩
  · rw [outcome, Context.runFirst_eq_nil _ silent]
  · rw [parse_builtinKey _ _ known, resolve_format apart found]
    rfl

end BuildLog.Registry
