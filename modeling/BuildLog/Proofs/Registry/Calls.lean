import BuildLog.Proofs.Registry.History
import BuildLog.Proofs.Run
import BuildLog.Registry.Catalog
import Mathlib.Data.List.Nodup

/-! Runs of the catalog: rule documents are loaded and formats unloaded in any order, and any of
these calls may fail. The formats that are always known stand through every run: they keep their
places among each other and their names and aliases, and what is loaded beside them is known by
none of these. -/
namespace BuildLog

/-- A pattern without fault or risk is compiled as it is read. -/
theorem Pattern.compile_eq_pure [Host] {text : String} {p : Pattern}
    (calm : isRisky (String.ofList (expandAlias text.toList)) = false)
    (readable : read (String.ofList (expandAlias text.toList)) = .ok p) :
    compile text = pure p := by
  simp only [compile, calm, readable, Bool.false_eq_true, if_false]

namespace RuleSet

theorem read_returns [Host] {text : String} {rules : RuleSet} (done : (read text).Returns rules) :
    ∃ m format priority aliases groups, (readName m).Returns format ∧
      rules.profile = profileOf m format priority aliases groups := by
  unfold read at done
  split at done
  · next m _ =>
    obtain ⟨format, name, done⟩ := Run.returns_bind done
    obtain ⟨items, _, done⟩ := Run.returns_bind done
    obtain ⟨priority, _, done⟩ := Run.returns_bind done
    obtain ⟨detection, _, done⟩ := Run.returns_bind done
    obtain ⟨list, _, done⟩ := Run.returns_bind done
    obtain ⟨aliases, _, done⟩ := Run.returns_bind done
    obtain ⟨groups, _, done⟩ := Run.returns_bind done
    have same := Run.returns_pure.mp done
    exact ⟨m, format, priority, aliases, groups, name, same ▸ rfl⟩
  all_goals exact absurd done (Run.not_returns_throw _ _)

/-- Rules that demand nothing of a log accept none. -/
theorem acceptsLog_eq_false [Host] {rules : RuleSet} (idle : rules.detection = {})
    (content : String) : rules.format.acceptsLog content = pure false := by
  simp only [Format.acceptsLog, format, Format.ofLines, idle]
  rfl

end RuleSet

namespace Registry

inductive Call where
  | load (text : String)
  | unload (key : String)

/-- The registry after a call, beside the notices told so far. A call that fails leaves the
registry as it was. -/
def call [Host] (s : Registry × Array Notice) : Call → Registry × Array Notice
  | .load text =>
    match s.1.load text s.2 with
    | (.ok (_, g), told) => (g, told)
    | (.error _, told) => (s.1, told)
  | .unload key =>
    match s.1.unload key s.2 with
    | (.ok (some g), told) => (g, told)
    | (_, told) => (s.1, told)

/-- The registry after calls in their order; `told` are the notices told before. -/
def callAll [Host] (g : Registry) (told : Array Notice) (calls : List Call) : Registry :=
  (calls.foldl call (g, told)).1

/-- The names and aliases of the formats that are always known. -/
def builtinKeys [Host] : List String := Format.builtins.flatMap (·.profile.keys)

/-- The profiles of the formats that are always known, which are the same on every host. -/
def builtinProfiles : List Profile :=
  [Format.CiJob.profile, Format.Junit.profile, Format.Eslint.profile, Format.CompilerText.profile,
    Format.Flake8.profile, Format.Pytest.profile, Format.JsonLines.profile, Format.Logfmt.profile,
    Format.Syslog.profile, Format.LogRecord.profile, Format.Prefixed.profile,
    Format.AnyLint.profile]

theorem standard_profiles [Host] :
    standard.entries.map Registration.profile = builtinProfiles := rfl

theorem builtin_eq_of_name [Host] {f g : Format} (first : f ∈ Format.builtins)
    (second : g ∈ Format.builtins) (name : f.profile.format = g.profile.format) : f = g := by
  have apart : (builtinProfiles.map (·.format)).Nodup := by decide
  have same : builtinProfiles.map (·.format) = Format.builtins.map (·.profile.format) := rfl
  exact List.inj_on_of_nodup_map (same ▸ apart) first second name

theorem builtinKeys_eq [Host] : builtinKeys = builtinProfiles.flatMap Profile.keys := rfl

theorem forall_standard [Host] {p : Profile → Prop} (all : ∀ q ∈ builtinProfiles, p q) :
    ∀ r ∈ standard.entries, p r.profile :=
  fun _ member => all _ (standard_profiles ▸ List.mem_map_of_mem member)

def IsLoaded [Host] (r : Registration) : Prop :=
  ∃ text rules, (RuleSet.read text).Returns rules ∧ r.format = rules.format

theorem IsLoaded.profile_eq [Host] {r : Registration} (loaded : IsLoaded r) :
    ∃ m format priority aliases groups,
      r.profile = RuleSet.profileOf m format priority aliases groups := by
  obtain ⟨text, rules, read, same⟩ := loaded
  have profile : r.profile = rules.profile := congrArg Format.profile same
  obtain ⟨m, format, priority, aliases, groups, -, made⟩ := RuleSet.read_returns read
  exact ⟨m, format, priority, aliases, groups, profile.trans made⟩

theorem IsLoaded.isBuiltin [Host] {r : Registration} (loaded : IsLoaded r) :
    r.profile.isBuiltin = false := by
  obtain ⟨m, format, priority, aliases, groups, same⟩ := loaded.profile_eq
  rw [same, RuleSet.profileOf]

theorem IsLoaded.commands [Host] {r : Registration} (loaded : IsLoaded r) :
    r.profile.commands = [] := by
  obtain ⟨m, format, priority, aliases, groups, same⟩ := loaded.profile_eq
  rw [same, RuleSet.profileOf]

theorem load_eq_pure [Host] {g : Registry} {text : String} {rules : RuleSet}
    (read : RuleSet.read text = pure rules) (free : g.protectedKey? rules.profile = none) :
    g.load text = pure (rules.profile.format,
      ((g.unregister? rules.profile.format).getD g).register rules.format) := by
  simp only [load, read, free, pure_bind]

theorem load_returns [Host] {g g' : Registry} {text name : String}
    (done : (g.load text).Returns (name, g')) :
    ∃ rules, (RuleSet.read text).Returns rules ∧
      (∀ key ∈ rules.profile.keys, g.isBuiltin key = false) ∧ name = rules.profile.format ∧
      g' = ((g.unregister? rules.profile.format).getD g).register rules.format := by
  obtain ⟨rules, read, done⟩ := Run.returns_bind done
  dsimp only at done
  split at done
  · exact absurd done (Run.not_returns_throw _ _)
  next free =>
    obtain ⟨rfl, rfl⟩ := Prod.mk.inj (Run.returns_pure.mp done)
    refine ⟨rules, read, fun key member => ?_, rfl, rfl⟩
    simpa using List.find?_eq_none.mp free key member

theorem unload_returns {g g' : Registry} {key : String}
    (done : (g.unload key).Returns (some g')) :
    ∃ r, g.find? key = some r ∧ r.profile.isBuiltin = false ∧
      g.unregister? r.profile.format = some g' := by
  unfold unload at done
  split at done
  · cases Run.returns_pure.mp done
  next r found =>
    split at done
    · obtain ⟨_, _, done⟩ := Run.returns_bind done
      cases Run.returns_pure.mp done
    next added =>
      exact ⟨r, found, by simpa using added, Run.returns_pure.mp done⟩

/-- A call changes the registry as it returns, or not at all. -/
theorem call_cases [Host] (s : Registry × Array Notice) (c : Call) :
    (call s c).1 = s.1 ∨
    (∃ text name, c = .load text ∧ (s.1.load text).Returns (name, (call s c).1)) ∨
    ∃ key, c = .unload key ∧ (s.1.unload key).Returns (some (call s c).1) := by
  cases c with
  | load text =>
    simp only [call]
    split
    next name g told done => exact .inr (.inl ⟨text, name, rfl, s.2, told, done⟩)
    next => exact .inl rfl
  | unload key =>
    simp only [call]
    split
    next g told done => exact .inr (.inr ⟨key, rfl, s.2, told, done⟩)
    next => exact .inl rfl

/-- The formats that are always known stand in the registry, and rules stand beside them. -/
structure Standing [Host] (g : Registry) : Prop where
  consistent : g.Consistent
  builtins : g.entries.filter (·.profile.isBuiltin) = standard.entries
  loaded : ∀ r ∈ g.entries, r.profile.isBuiltin = false →
    IsLoaded r ∧ ∀ key ∈ r.profile.keys, key ∉ builtinKeys
  serials : g.entries.Pairwise fun a b => a.serial < b.serial
  fresh : ∀ r ∈ g.entries, r.serial < g.nextSerial

/-- Whether a format is always known. -/
theorem standard_isBuiltin [Host] : ∀ r ∈ standard.entries, r.profile.isBuiltin = true :=
  forall_standard (p := (·.isBuiltin = true)) (by decide)

theorem standard_keys [Host] :
    ∀ r ∈ standard.entries, ∀ key ∈ r.profile.keys, key ∈ builtinKeys := by
  rw [builtinKeys_eq]
  exact forall_standard (p := fun q => ∀ key ∈ q.keys, key ∈ builtinProfiles.flatMap Profile.keys)
    fun _ known _ own => List.mem_flatMap.mpr ⟨_, known, own⟩

theorem standard_find?_isBuiltin [Host] : ∀ key ∈ builtinKeys, standard.isBuiltin key = true :=
  of_decide_eq_true rfl

theorem register_consistent {g : Registry} (valid : g.Consistent) (f : Format) :
    (g.register f).Consistent :=
  add_consistent valid _

theorem register_entries (g : Registry) {f : Format} (named : f.profile.format.isEmpty = false) :
    (g.register f).entries = g.entries ++ [⟨g.nextSerial, f⟩] := by
  simp [register, add, Registration.profile, named]

theorem mem_register {g : Registry} {f : Format} {r : Registration}
    (member : r ∈ (g.register f).entries) : r ∈ g.entries ∨ r.format = f := by
  unfold register add at member
  split at member
  · exact .inl member
  · obtain old | last := List.mem_append.mp member
    · exact .inl old
    · exact .inr (by rw [List.mem_singleton.mp last])

theorem mem_ranked {g : Registry} (valid : g.Consistent) {r : Registration} :
    r ∈ g.ranked ↔ r ∈ g.entries := by
  rw [valid.ranked_eq, (byPriority_perm _).mem_iff]

/-- What a format has as a group is one from its registration on, whatever it was before. -/
theorem isGroup_register (g : Registry) {f : Format} (named : f.profile.format.isEmpty = false)
    {tag : String} (tagged : tag ∈ f.profile.groups) : (g.register f).isGroup tag = true := by
  rw [isGroup, register_entries g named, List.any_append]
  simp [Registration.profile, tagged]

theorem inGroup_register {g : Registry} (valid : g.Consistent) {f : Format} {tag : String}
    (free : g.isGroup tag = false) : ∀ r ∈ (g.register f).inGroup tag, r.format = f := by
  intro r member
  obtain ⟨ranked, tagged⟩ := List.mem_filter.mp member
  obtain old | new := mem_register ((mem_ranked (register_consistent valid f)).mp ranked)
  · rw [isGroup, List.any_eq_false] at free
    exact absurd tagged (free r old)
  · exact new

theorem ofFormats_consistent (formats : List Format) : (ofFormats formats).Consistent := by
  have all (g : Registry) (valid : g.Consistent) : (formats.foldl register g).Consistent := by
    induction formats generalizing g with
    | nil => exact valid
    | cons f rest ih => exact ih _ (register_consistent valid f)
  exact all empty empty_consistent

theorem mem_ofFormats {formats : List Format} {r : Registration}
    (member : r ∈ (ofFormats formats).entries) : r.format ∈ formats := by
  have all (g : Registry) (later : r ∈ (formats.foldl register g).entries) :
      r ∈ g.entries ∨ r.format ∈ formats := by
    clear member
    induction formats generalizing g with
    | nil => exact .inl later
    | cons f rest ih =>
      obtain here | there := ih _ later
      · obtain old | same := mem_register here
        · exact .inl old
        · exact .inr (by simp [same])
      · exact .inr (by simp [there])
  exact (all empty member).resolve_left (by simp [empty])

def IsNumbered (g : Registry) : Prop := g.entries.map (·.serial) = List.range g.nextSerial

theorem register_isNumbered {g : Registry} (numbered : g.IsNumbered) (f : Format) :
    (g.register f).IsNumbered := by
  rw [IsNumbered] at numbered ⊢
  unfold register add
  split
  · exact numbered
  · simp [numbered, List.range_succ]

theorem ofFormats_isNumbered (formats : List Format) : (ofFormats formats).IsNumbered := by
  have all (g : Registry) (numbered : g.IsNumbered) : (formats.foldl register g).IsNumbered := by
    induction formats generalizing g with
    | nil => exact numbered
    | cons f rest ih => exact ih _ (register_isNumbered numbered f)
  exact all empty rfl

theorem standard_standing [Host] : standard.Standing where
  consistent := ofFormats_consistent _
  builtins := List.filter_eq_self.mpr standard_isBuiltin
  loaded r member added := by
    rw [standard_isBuiltin r member] at added
    contradiction
  serials := by
    rw [← List.pairwise_map, standard, ofFormats_isNumbered]
    exact List.pairwise_lt_range
  fresh r member := by
    rw [← List.mem_range, standard, ← ofFormats_isNumbered]
    exact List.mem_map_of_mem member

namespace Standing

variable {g : Registry}

theorem mem_standard [Host] (valid : g.Standing) {r : Registration} (member : r ∈ g.entries)
    (known : r.profile.isBuiltin = true) : r ∈ standard.entries := by
  rw [← valid.builtins]
  exact List.mem_filter.mpr ⟨member, known⟩

/-- The keys of formats that are always known lead to the same formats as ever. -/
theorem find?_builtin [Host] (valid : g.Standing) {key : String} (known : key ∈ builtinKeys) :
    g.find? key = standard.find? key := by
  have same : g.entries.filter (key ∈ ·.profile.keys) =
      (g.entries.filter (·.profile.isBuiltin)).filter (key ∈ ·.profile.keys) := by
    rw [List.filter_filter]
    apply List.filter_congr
    intro r member
    cases added : r.profile.isBuiltin with
    | true => simp
    | false =>
      have apart : key ∉ r.profile.keys := fun own => (valid.loaded r member added).2 key own known
      simp [apart]
  rw [valid.consistent.find?_eq, standard_standing.consistent.find?_eq, owner?, owner?, same,
    valid.builtins]

theorem not_mem_builtinKeys [Host] (valid : g.Standing) {key : String}
    (free : g.isBuiltin key = false) : key ∉ builtinKeys := by
  intro known
  have held := standard_find?_isBuiltin key known
  rw [isBuiltin, ← valid.find?_builtin known] at held
  rw [isBuiltin, held] at free
  contradiction

theorem find?_mem [Host] (valid : g.Standing) {key : String} {r : Registration}
    (found : g.find? key = some r) : r ∈ g.entries ∧ key ∈ r.profile.keys :=
  owner?_mem (valid.consistent.find?_eq key ▸ found)

theorem eq_of_serial [Host] (valid : g.Standing) {a b : Registration} (ha : a ∈ g.entries)
    (hb : b ∈ g.entries) (same : a.serial = b.serial) : a = b := by
  refine List.Pairwise.forall_of_forall_of_flip (R := fun a b => a.serial = b.serial → a = b)
    (fun _ _ _ => rfl) ?_ ?_ ha hb same
  · exact valid.serials.imp fun less same => by omega
  · exact valid.serials.imp fun less same => by omega

/-- Rules that share no key with the formats that are always known may come in. -/
theorem register [Host] (valid : g.Standing) {f : Format} (loaded : IsLoaded ⟨g.nextSerial, f⟩)
    (apart : ∀ key ∈ f.profile.keys, key ∉ builtinKeys) : (g.register f).Standing := by
  have consistent := register_consistent valid.consistent f
  cases named : f.profile.format.isEmpty with
  | true =>
    have same : g.register f = g := by simp [Registry.register, add, Registration.profile, named]
    rw [same]
    exact valid
  | false =>
    have entries := register_entries g named
    have next : (g.register f).nextSerial = g.nextSerial + 1 := by
      simp [Registry.register, add, Registration.profile, named]
    have added : f.profile.isBuiltin = false := loaded.isBuiltin
    refine ⟨consistent, ?_, ?_, ?_, ?_⟩
    · rw [entries, List.filter_append, valid.builtins]
      simp [Registration.profile, added]
    · intro r member known
      rw [entries, List.mem_append, List.mem_singleton] at member
      rcases member with old | rfl
      · exact valid.loaded r old known
      · exact ⟨loaded, apart⟩
    · rw [entries, List.pairwise_append]
      refine ⟨valid.serials, List.pairwise_singleton _ _, fun a old b last => ?_⟩
      rw [List.mem_singleton.mp last]
      exact valid.fresh a old
    · intro r member
      rw [entries, List.mem_append, List.mem_singleton] at member
      rw [next]
      rcases member with old | rfl
      · exact Nat.lt_succ_of_lt (valid.fresh r old)
      · exact Nat.lt_succ_self _

/-- Rules may be taken out. -/
theorem remove [Host] (valid : g.Standing) {r : Registration} (member : r ∈ g.entries)
    (added : r.profile.isBuiltin = false) : (g.remove r).Standing := by
  refine ⟨remove_consistent g r, ?_, ?_, ?_, ?_⟩
  · change (g.entries.filter (·.serial != r.serial)).filter (·.profile.isBuiltin) = _
    rw [← valid.builtins, List.filter_filter]
    apply List.filter_congr
    intro b old
    cases known : b.profile.isBuiltin with
    | false => simp
    | true =>
      have differ : b.serial ≠ r.serial := by
        intro same
        rw [valid.eq_of_serial old member same, added] at known
        contradiction
      simp [differ]
  · exact fun b kept => valid.loaded b (List.mem_filter.mp kept).1
  · exact valid.serials.filter _
  · exact fun b kept => valid.fresh b (List.mem_filter.mp kept).1

/-- A key outside of those always known belongs to rules. -/
theorem not_builtin_of_key [Host] (valid : g.Standing) {key : String} {r : Registration}
    (free : key ∉ builtinKeys) (member : r ∈ g.entries) (own : key ∈ r.profile.keys) :
    r.profile.isBuiltin = false := by
  cases known : r.profile.isBuiltin with
  | false => rfl
  | true => exact absurd (standard_keys r (valid.mem_standard member known) key own) free

theorem unregister [Host] (valid : g.Standing) {g' : Registry} {name : String}
    (free : name ∉ builtinKeys) (done : g.unregister? name = some g') : g'.Standing := by
  obtain ⟨r, found, _, rfl⟩ := unregister?_eq_some done
  obtain ⟨member, own⟩ := valid.find?_mem found
  exact valid.remove member (valid.not_builtin_of_key free member own)

theorem load [Host] (valid : g.Standing) {g' : Registry} {text name : String}
    (done : (g.load text).Returns (name, g')) : g'.Standing := by
  obtain ⟨rules, read, unprotected, _, rfl⟩ := load_returns done
  have apart : ∀ key ∈ rules.profile.keys, key ∉ builtinKeys :=
    fun key own => valid.not_mem_builtinKeys (unprotected key own)
  have replaced : ((g.unregister? rules.profile.format).getD g).Standing := by
    cases done : g.unregister? rules.profile.format with
    | none => exact valid
    | some g' => exact valid.unregister (apart _ (by simp [Profile.keys])) done
  exact replaced.register ⟨text, rules, read, rfl⟩ apart

theorem unload [Host] (valid : g.Standing) {g' : Registry} {key : String}
    (done : (g.unload key).Returns (some g')) : g'.Standing := by
  obtain ⟨r, found, added, done⟩ := unload_returns done
  have own : r.profile.format ∈ r.profile.keys := by simp [Profile.keys]
  exact valid.unregister ((valid.loaded r (valid.find?_mem found).1 added).2 _ own) done

end Standing

theorem call_standing [Host] {s : Registry × Array Notice} (valid : s.1.Standing) (c : Call) :
    (call s c).1.Standing := by
  rcases call_cases s c with same | ⟨text, name, -, done⟩ | ⟨key, -, done⟩
  · exact same ▸ valid
  · exact valid.load done
  · exact valid.unload done

/-- The formats that are always known stand through every run of the catalog. -/
theorem callAll_standing [Host] (told : Array Notice) (calls : List Call) :
    (standard.callAll told calls).Standing := by
  have all (s : Registry × Array Notice) (valid : s.1.Standing) :
      (calls.foldl call s).1.Standing := by
    induction calls generalizing s with
    | nil => exact valid
    | cons c calls ih => exact ih _ (call_standing valid c)
  exact all _ standard_standing

end Registry

end BuildLog
