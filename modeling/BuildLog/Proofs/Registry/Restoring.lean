import BuildLog.Proofs.Registry.Editing
import BuildLog.Proofs.Registry.Naming

/-! Loading a document and taking it out again. A document that is not loaded changes nothing. One
that is loaded without replacing rules of its name leaves no trace once it is unloaded: the formats
before it stand in their order, and every key, also one that the document took from them, leads
where it led. -/
namespace BuildLog.Registry

/-- The same formats in the same order of registration, each key standing for the same one, and in
the same order by priority. -/
structure LooksLike (g h : Registry) : Prop where
  entries : g.entries = h.entries
  keys : ∀ key, g.find? key = h.find? key
  view : g.ranked = h.ranked

/-- A consistent registry shows nothing but its entries. -/
theorem Consistent.looksLike {g h : Registry} (valid : g.Consistent) (other : h.Consistent)
    (same : g.entries = h.entries) : g.LooksLike h where
  entries := same
  keys key := by rw [valid.find?_eq, other.find?_eq, same]
  view := by rw [valid.ranked_eq, other.ranked_eq, same]

/-- A format that has come in last can be taken out as if it had never been there. -/
theorem remove_register {g : Registry} (sound : g.IsSound) {f : Format}
    (named : f.profile.format.isEmpty = false) :
    ((g.register f).remove ⟨g.nextSerial, f⟩).LooksLike g := by
  refine (remove_consistent _ _).looksLike sound.consistent ?_
  have kept : g.entries.filter (·.serial != g.nextSerial) = g.entries := by
    refine List.filter_eq_self.mpr fun r member => ?_
    have less := sound.fresh r member
    simp only [bne_iff_ne, ne_eq]
    omega
  change (g.register f).entries.filter _ = _
  rw [register_entries g named, List.filter_append, kept, List.filter_cons_of_neg (by simp),
    List.filter_nil, List.append_nil]

/-- Without a format of the name nothing is replaced. -/
theorem unregister?_of_unnamed {g : Registry} (valid : g.Consistent) {name : String}
    (unnamed : ∀ r ∈ g.entries, r.profile.format ≠ name) : g.unregister? name = none := by
  cases done : g.unregister? name with
  | none => rfl
  | some g' =>
    obtain ⟨r, found, own, -⟩ := unregister?_eq_some done
    rw [valid.find?_eq] at found
    exact absurd own (unnamed r (owner?_mem found).1)

/-- A format that came in last is found by its name, and it goes alone. -/
theorem unload_register {g : Registry} {f : Format} (named : f.profile.format.isEmpty = false)
    (added : f.profile.isBuiltin = false) (told : Array Notice) :
    (g.register f).unload f.profile.format told =
      (.ok (some ((g.register f).remove ⟨g.nextSerial, f⟩)), told) := by
  have found : (g.register f).find? f.profile.format = some ⟨g.nextSerial, f⟩ := by
    rw [find?_register g named, if_pos (by simp [Profile.keys])]
  simp only [unload, found, unregister?, Registration.profile, added, beq_self_eq_true, if_true,
    Bool.false_eq_true, if_false]
  rfl

/-- Whatever was done with a registry, loading a document in place ends as it does on the registry
as a value. If it is given up then the registry is the same as before. If it returns a name that
no format had, then to unload this name succeeds, and the formats, what every key stands for and
the view by priority are the same as before. -/
theorem load_unload [Host] {g : Registry} (reached : g.Reached) (text : String)
    (told : Array Notice) :
    (∀ e g' told', Edit.load text (g, told) = (.error e, g', told') →
      g' = g ∧ g.load text told = (.error e, told')) ∧
    ∀ name g' told', Edit.load text (g, told) = (.ok name, g', told') →
      g.load text told = (.ok (name, g'), told') ∧
      ((∀ r ∈ g.entries, r.profile.format ≠ name) →
        ∃ g'', Edit.unload name (g', told') = (.ok true, g'', told') ∧
          g'.unload name told' = (.ok (some g''), told') ∧ g''.LooksLike g) := by
  rw [Edit.load_apply]
  constructor
  · intro e g' told' done
    rcases ended : g.load text told with ⟨fault | ⟨name, h⟩, last⟩
    · rw [ended] at done
      cases done
      exact ⟨rfl, rfl⟩
    · rw [ended] at done
      cases done
  · intro name g' told' done
    rcases ended : g.load text told with ⟨fault | ⟨name, h⟩, last⟩
    · rw [ended] at done
      cases done
    · rw [ended] at done
      cases done
      refine ⟨rfl, fun unnamed => ?_⟩
      have sound := reached.sound
      obtain ⟨rules, read, -, rfl, rfl⟩ := load_returns ⟨told, told', ended⟩
      obtain ⟨m, format, priority, aliases, groups, given, made⟩ := RuleSet.read_returns read
      have own : rules.profile.format = format := by rw [made, RuleSet.profileOf]
      have named : rules.format.profile.format.isEmpty = false :=
        own ▸ (RuleSet.readName_returns given).1
      have added : rules.format.profile.isBuiltin = false :=
        IsLoaded.isBuiltin (r := ⟨g.nextSerial, rules.format⟩) ⟨text, rules, read, rfl⟩
      have taken := unload_register (g := g) named added told'
      rw [unregister?_of_unnamed sound.consistent unnamed, Option.getD_none]
      refine ⟨_, ?_, taken, remove_register sound named⟩
      change Edit.unload rules.format.profile.format _ = _
      rw [Edit.unload_apply, taken]
      rfl

/-- Rules that replace none come in beside the others. -/
theorem Edit.load_ruled [Host] (g : Registry) (told : Array Notice) (text name : String)
    (aliases : List String) (document : Json.read text = .ok (.object (ruled name aliases)))
    (nonblank : Text.isBlankText name = false) (plain : Text.stripped name = name)
    (free : ∀ key ∈ name :: aliases, g.isBuiltin key = false) (kept : g.unregister? name = none) :
    Edit.load text (g, told) = (.ok name, g.register (ruledSet name aliases).format, told) := by
  rw [Edit.load_apply, Registry.load_ruled g text name aliases document nonblank plain free, kept]
  rfl

def ruledRegistry : Registry := (Edit.load (ruledText "a" "\"x\"") (standard, #[])).2.1

theorem ruledRegistry_reached : ruledRegistry.Reached :=
  (Reached.ofFormats Format.builtins).load _ _

theorem ruledRegistry_eq : ruledRegistry = standard.register (ruledSet "a" ["x"]).format := by
  have loaded := Edit.load_ruled standard #[] (ruledText "a" "\"x\"") "a" ["x"]
    document_aliased (by decide) (by decide) (by decide) rfl
  simp only [ruledRegistry, loaded]

/-- A document that takes the name and the alias of another, and one that claims an alias that is
always known. -/
theorem load_unload_shadowing :
    let g := ruledRegistry
    g.Reached ∧
    (∃ e, Edit.load (ruledText "c" "\"gcc\"") (g, #[]) = (.error e, g, #[])) ∧
    ∃ g' g'', Edit.load (ruledText "b" "\"a\", \"x\"") (g, #[]) = (.ok "b", g', #[]) ∧
      (∀ r ∈ g.entries, r.profile.format ≠ "b") ∧
      (∀ key ∈ ["a", "x"], (g.find? key).map (·.profile.format) = some "a" ∧
        (g'.find? key).map (·.profile.format) = some "b") ∧
      Edit.unload "b" (g', #[]) = (.ok true, g'', #[]) ∧ g''.LooksLike g := by
  intro g
  have came : g = standard.register (ruledSet "a" ["x"]).format := ruledRegistry_eq
  refine ⟨ruledRegistry_reached, ?_, ?_⟩
  · have read : RuleSet.read (ruledText "c" "\"gcc\"") = pure (ruledSet "c" ["gcc"]) :=
      read_ruled (document_read (by decide)) (by decide) (by decide)
    have taken : g.protectedKey? (ruledSet "c" ["gcc"]).profile = some "gcc" := by
      rw [came]
      decide
    have failed : g.load (ruledText "c" "\"gcc\"") #[] =
        (.error (.config (.shadowsBuiltin "gcc")), #[]) := by
      simp only [load, read, taken, pure_bind]
      rfl
    rcases ended : Edit.load (ruledText "c" "\"gcc\"") (g, #[]) with ⟨e | name, g', told'⟩
    · obtain ⟨rfl, same⟩ := (load_unload ruledRegistry_reached _ _).1 e g' told' ended
      rw [failed] at same
      cases same
      exact ⟨_, rfl⟩
    · rw [Edit.load_apply, failed] at ended
      cases ended
  · have free : ∀ key ∈ ["b", "a", "x"], g.isBuiltin key = false := by
      rw [came]
      decide
    have absent : g.unregister? "b" = none := by
      rw [came]
      rfl
    have done := Edit.load_ruled g #[] (ruledText "b" "\"a\", \"x\"") "b" ["a", "x"]
      (document_read (by decide)) (by decide) (by decide) free absent
    have unnamed : ∀ r ∈ g.entries, r.profile.format ≠ "b" := by
      rw [came]
      decide
    obtain ⟨g'', unloaded, -, like⟩ :=
      ((load_unload ruledRegistry_reached _ _).2 _ _ _ done).2 unnamed
    refine ⟨_, g'', done, unnamed, fun key member => ⟨?_, ?_⟩, unloaded, like⟩
    · have own : key ∈ (ruledSet "a" ["x"]).format.profile.keys := member
      rw [came, find?_register standard (by decide), if_pos own]
      rfl
    · have own : key ∈ (ruledSet "b" ["a", "x"]).format.profile.keys :=
        List.mem_cons_of_mem _ member
      rw [find?_register g (by decide), if_pos own]
      rfl

end BuildLog.Registry
