import BuildLog.Proofs.Registry.Protection

/-! Taking rules out of a catalog. The format to go is found by a key, which may be an alias, and
taken out by its name, which is looked up once more. Another document may have this name as an
alias, or have come in under the same name since, and then the name no longer leads to the format
that the key stood for. -/
namespace BuildLog.Registry

/-- What is left of a registry without one registration: all others as they stand, found by their
keys. -/
structure IsWithout (g : Registry) (r : Registration) (g' : Registry) : Prop where
  entries : ∃ before after, g.entries = before ++ r :: after ∧ g'.entries = before ++ after
  keys : ∀ key, g'.find? key = owner? g'.entries key

/-- A key of a registered format stands for some format. -/
theorem owner?_isSome {present : List Registration} {r : Registration} {key : String}
    (member : r ∈ present) (own : key ∈ r.profile.keys) : (owner? present key).isSome = true := by
  rw [owner?, List.getLast?_isSome]
  exact List.ne_nil_of_mem (List.mem_filter.mpr ⟨member, by simpa using own⟩)

/-- A registration is found by its own keys and hides others under them. -/
theorem find?_register (g : Registry) {f : Format} (named : f.profile.format.isEmpty = false)
    (key : String) :
    (g.register f).find? key =
      if key ∈ f.profile.keys then some ⟨g.nextSerial, f⟩ else g.find? key := by
  have added : (g.register f).index = addKeys g.index ⟨g.nextSerial, f⟩ := by
    simp [register, add, Registration.profile, named]
  rw [find?, added, lookup_addKeys]
  rfl

theorem name_mem_keys (r : Registration) : r.profile.format ∈ r.profile.keys := by
  simp [Profile.keys]

namespace Standing

variable {g : Registry}

/-- Serial numbers tell registrations apart, so no other one goes with the one taken out. -/
theorem remove_isWithout [Host] (valid : g.Standing) {r : Registration} (member : r ∈ g.entries) :
    g.IsWithout r (g.remove r) := by
  refine ⟨?_, (remove_consistent g r).find?_eq⟩
  obtain ⟨before, after, split⟩ := List.append_of_mem member
  have serials := valid.serials
  rw [split, List.pairwise_append, List.pairwise_cons] at serials
  obtain ⟨-, ⟨later, -⟩, earlier⟩ := serials
  have keptBefore : before.filter (·.serial != r.serial) = before := by
    apply List.filter_eq_self.mpr
    intro a first
    have less := earlier a first r (by simp)
    simp only [bne_iff_ne, ne_eq]
    omega
  have keptAfter : after.filter (·.serial != r.serial) = after := by
    apply List.filter_eq_self.mpr
    intro a last
    have less := later a last
    simp only [bne_iff_ne, ne_eq]
    omega
  refine ⟨before, after, split, ?_⟩
  change g.entries.filter (·.serial != r.serial) = _
  rw [split, List.filter_append, List.filter_cons_of_neg (by simp), keptBefore, keptAfter]

/-- The name of loaded rules leads to loaded rules, if not always to the same. -/
theorem find?_name [Host] (valid : g.Standing) {r : Registration} (member : r ∈ g.entries)
    (added : r.profile.isBuiltin = false) :
    ∃ named, g.find? r.profile.format = some named ∧ named ∈ g.entries ∧
      named.profile.isBuiltin = false := by
  have own := name_mem_keys r
  obtain ⟨named, owner⟩ := Option.isSome_iff_exists.mp (owner?_isSome member own)
  have found : g.find? r.profile.format = some named := by rw [valid.consistent.find?_eq, owner]
  obtain ⟨present, known⟩ := valid.find?_mem found
  have free := (valid.loaded r member added).2 _ own
  exact ⟨named, found, present, valid.not_builtin_of_key free present known⟩

end Standing

/-- After any calls of the catalog, if a key stands for loaded rules, the format that their name
leads to is taken out, and it alone, provided that it has this name as its own; else nothing is.
The same format goes that the key stood for if its name leads to itself. A key that stands for
nothing, or for a format that is always known, is refused. -/
theorem unload_callAll [Host] (told : Array Notice) (calls : List Call) (key : String)
    (notices : Array Notice) :
    let g := standard.callAll told calls
    (∀ r, g.find? key = some r → r.profile.isBuiltin = false →
      ∃ named, g.find? r.profile.format = some named ∧ named.profile.isBuiltin = false ∧
        (named.profile.format = r.profile.format →
          ∃ g', g.unload key notices = (.ok (some g'), notices) ∧ g.IsWithout named g') ∧
        (named.profile.format ≠ r.profile.format →
          g.unload key notices = (.ok none, notices))) ∧
    ((∀ r, g.find? key = some r → r.profile.isBuiltin = true) →
      (g.unload key notices).1 = .ok none) := by
  intro g
  have valid : g.Standing := callAll_standing told calls
  constructor
  · intro r found added
    obtain ⟨named, leads, member, loaded⟩ := valid.find?_name (valid.find?_mem found).1 added
    refine ⟨named, leads, loaded, fun own => ?_, fun other => ?_⟩
    · refine ⟨g.remove named, ?_, valid.remove_isWithout member⟩
      simp only [unload, found, added, unregister?, leads, own, beq_self_eq_true, if_true,
        Bool.false_eq_true, if_false]
      rfl
    · have differ : (named.profile.format == r.profile.format) = false := by simpa using other
      simp only [unload, found, added, unregister?, leads, differ, Bool.false_eq_true, if_false]
      rfl
  · intro known
    cases found : g.find? key with
    | none =>
      simp only [unload, found]
      rfl
    | some r =>
      simp only [unload, found, known r found, if_true]
      rfl

def ruled (name : String) (aliases : List String) : Json.Members :=
  [("name", .string name), ("aliases", .array (aliases.map .string)),
    ("patterns", .array [.object capturingRule])]

theorem list?_strings (texts : List String) :
    (Json.Value.array (texts.map .string)).list? Json.Value.string? = some texts := by
  induction texts with
  | nil => rfl
  | cons t rest ih =>
    simp only [Json.Value.list?, List.map_cons, List.mapM_cons] at ih ⊢
    rw [ih]
    rfl

def ruledSet (name : String) (aliases : List String) : RuleSet where
  profile := RuleSet.profileOf (ruled name aliases) name 50 aliases ["custom"]
  rules := [capturedRule]
  detection := {}

theorem read_ruled [Host] {text name : String} {aliases : List String}
    (document : Json.read text = .ok (.object (ruled name aliases)))
    (nonblank : Text.isBlankText name = false) (plain : Text.stripped name = name) :
    RuleSet.read text = pure (ruledSet name aliases) := by
  have own : RuleSet.readName (ruled name aliases) = pure name := by
    change (if Text.isBlankText name then _ else pure (Text.stripped name)) = _
    rw [nonblank, plain]
    rfl
  have items : RuleSet.readItems (ruled name aliases) = pure [.object capturingRule] := rfl
  have priority : RuleSet.readPriority (ruled name aliases) = pure 50 := rfl
  have detection : RuleSet.readDetection (ruled name aliases) = pure {} := rfl
  have others : RuleSet.texts (ruled name aliases) "aliases" [] = .ok aliases := by
    change (((Json.Value.array (aliases.map .string)).list? _).map Except.ok).getD _ = _
    rw [list?_strings]
    rfl
  have groups : RuleSet.texts (ruled name aliases) "groups" ["custom"] = .ok ["custom"] := rfl
  simp only [RuleSet.read, document, RuleSet.ofMembers, own, items, priority, detection, others,
    groups, RuleSet.demand, pure_bind, List.mapIdx_cons, List.mapIdx_nil, List.mapM_cons,
    List.mapM_nil, readRule_capturing]
  rfl

def ruledText (name aliases : String) : String :=
  "\x7b\"name\": \"" ++ name ++ "\", \"aliases\": [" ++ aliases ++
    "], \"patterns\": [\x7b\"regex\": \"x\", \"event_type\": \"summary\"\x7d]\x7d"

theorem ruled_isTextual (name : String) (aliases : List String) :
    (Json.Value.object (ruled name aliases)).IsTextual 3 := by
  refine .object ?_ ?_
  · change ["name", "aliases", "patterns"].Nodup
    decide
  · simp only [ruled, List.forall_mem_cons]
    exact ⟨.string _, .strings aliases, .array (by simpa using capturingRule_isTextual), nofun⟩

/-- A document in which the names are written as they are read. -/
theorem document_read {text name : String} {aliases : List String}
    (written : text = (Json.Value.object (ruled name aliases)).line) :
    Json.read text = .ok (.object (ruled name aliases)) := by
  rw [written]
  exact Json.read_line (ruled_isTextual name aliases) (by decide)

theorem document_alone : Json.read (ruledText "a" "") = .ok (.object (ruled "a" [])) :=
  document_read (by decide)

theorem document_aliased :
    Json.read (ruledText "a" "\"x\"") = .ok (.object (ruled "a" ["x"])) :=
  document_read (by decide)

/-- A document whose keys are free comes in, in place of rules of its name. -/
theorem load_ruled [Host] (g : Registry) (text name : String) (aliases : List String)
    (document : Json.read text = .ok (.object (ruled name aliases)))
    (nonblank : Text.isBlankText name = false) (plain : Text.stripped name = name)
    (free : ∀ key ∈ name :: aliases, g.isBuiltin key = false) :
    g.load text =
      pure (name, ((g.unregister? name).getD g).register (ruledSet name aliases).format) := by
  have unprotected : g.protectedKey? (ruledSet name aliases).profile = none :=
    List.find?_eq_none.mpr fun key member => by simpa using free key member
  rw [load_eq_pure (read_ruled document nonblank plain) unprotected]
  rfl

/-- Rules that replace none are registered beside the others. -/
theorem call_load_ruled [Host] (g : Registry) (told : Array Notice) (text name : String)
    (aliases : List String) (document : Json.read text = .ok (.object (ruled name aliases)))
    (nonblank : Text.isBlankText name = false) (plain : Text.stripped name = name)
    (free : ∀ key ∈ name :: aliases, g.isBuiltin key = false) (kept : g.unregister? name = none) :
    call (g, told) (.load text) = (g.register (ruledSet name aliases).format, told) := by
  simp only [call, load_ruled g text name aliases document nonblank plain free, kept,
    Option.getD_none, Run.pure_apply]

def overlappingCalls : List Call :=
  [.load (ruledText "a" "\"x\""), .load (ruledText "b" "\"a\"")]

/-- Rules of the name that the second document has as an alias. -/
def namesake : Call := .load (ruledText "a" "")

theorem foldl_overlapping :
    overlappingCalls.foldl call (standard, #[]) =
      ((standard.register (ruledSet "a" ["x"]).format).register (ruledSet "b" ["a"]).format,
        #[]) := by
  have first := call_load_ruled standard #[] (ruledText "a" "\"x\"") "a" ["x"] document_aliased
    (by decide) (by decide) (by decide) rfl
  have second := call_load_ruled (standard.register (ruledSet "a" ["x"]).format) #[]
    (ruledText "b" "\"a\"") "b" ["a"] (document_read (by decide)) (by decide) (by decide)
    (by decide) rfl
  simp only [overlappingCalls, List.foldl_cons, List.foldl_nil, first, second]

/-- What the documents make of the registry: the alias `x` stands for the first throughout, its
name for the second, and for the third once this has come in. -/
theorem callAll_overlappingCalls :
    let g := standard.callAll #[] overlappingCalls
    let h := standard.callAll #[] (overlappingCalls ++ [namesake])
    ∃ a b c : Registration, a.profile.isBuiltin = false ∧ a.profile.format = "a" ∧
      b.profile.format = "b" ∧ c.profile.format = "a" ∧ c.serial ≠ a.serial ∧
      g.find? "x" = some a ∧ g.find? "a" = some b ∧
      h.find? "x" = some a ∧ h.find? "a" = some c := by
  intro g h
  let first := (ruledSet "a" ["x"]).format
  let second := (ruledSet "b" ["a"]).format
  let third := (ruledSet "a" []).format
  let beside := (standard.register first).register second
  have came : g = beside := congrArg Prod.fst foldl_overlapping
  have later : h = beside.register third := by
    have last := call_load_ruled beside #[] (ruledText "a" "") "a" [] document_alone (by decide)
      (by decide) (by decide) rfl
    simp only [h, callAll, List.foldl_append, foldl_overlapping, List.foldl_cons, List.foldl_nil]
    exact congrArg Prod.fst last
  have nameA : first.profile.format.isEmpty = false := by decide
  have nameB : second.profile.format.isEmpty = false := by decide
  have nameC : third.profile.format.isEmpty = false := by decide
  have apart : beside.nextSerial ≠ standard.nextSerial := by decide
  refine ⟨⟨standard.nextSerial, first⟩, ⟨(standard.register first).nextSerial, second⟩,
    ⟨beside.nextSerial, third⟩, rfl, rfl, rfl, rfl, apart, ?_, ?_, ?_, ?_⟩
  · rw [came, find?_register _ nameB, if_neg (by decide), find?_register _ nameA,
      if_pos (by decide)]
  · rw [came, find?_register _ nameB, if_pos (by decide)]
  · rw [later, find?_register _ nameC, if_neg (by decide), find?_register _ nameB,
      if_neg (by decide), find?_register _ nameA, if_pos (by decide)]
  · rw [later, find?_register _ nameC, if_pos (by decide)]

/-- While another document has its name as an alias, rules are not taken out by an alias of their
own; once others have come in under this name, these go in their place. -/
theorem unload_overlappingCalls :
    let g := standard.callAll #[] overlappingCalls
    let h := standard.callAll #[] (overlappingCalls ++ [namesake])
    (∃ r, g.find? "x" = some r ∧ r.profile.isBuiltin = false ∧
      g.unload "x" #[] = (.ok none, #[])) ∧
    ∃ r other h', h.find? "x" = some r ∧ r.profile.isBuiltin = false ∧
      h.unload "x" #[] = (.ok (some h'), #[]) ∧ h.IsWithout other h' ∧ other.serial ≠ r.serial := by
  intro g h
  obtain ⟨a, b, c, added, nameA, nameB, nameC, apart, stands, hidden, stays, renewed⟩ :=
    callAll_overlappingCalls
  constructor
  · obtain ⟨named, leads, -, -, refused⟩ :=
      (unload_callAll #[] overlappingCalls "x" #[]).1 a stands added
    rw [nameA, hidden] at leads
    cases leads
    exact ⟨a, stands, added, refused (by simp [nameA, nameB])⟩
  · obtain ⟨named, leads, -, removed, -⟩ :=
      (unload_callAll #[] (overlappingCalls ++ [namesake]) "x" #[]).1 a stays added
    rw [nameA, renewed] at leads
    cases leads
    obtain ⟨h', done, without⟩ := removed (by rw [nameA, nameC])
    exact ⟨a, c, h', stays, added, done, without, apart⟩

end BuildLog.Registry
