import BuildLog.Proofs.Registry.Unloading
import BuildLog.Proofs.Text.Blank

/-! Names through runs of the catalog. A document comes in place of the rules that its name leads
to, if they have the name as their own. Rules whose name is an alias of others that came later are
not found by it, so they are not replaced and stay beside the new ones of the same name. The
formats that are always known are found by all their keys throughout. -/
namespace BuildLog

/-- The name of rules is a text without blanks around it, and not the empty one. -/
theorem RuleSet.readName_returns {m : Json.Members} {name : String}
    (done : (readName m).Returns name) :
    name.isEmpty = false ∧ Text.stripped name = name := by
  unfold readName at done
  split at done
  next text _ =>
    split at done
    · exact absurd done (Run.not_returns_throw _ _)
    next solid =>
      cases Run.returns_pure.mp done
      exact ⟨Text.stripped_isEmpty (by simpa using solid), Text.stripped_stripped text⟩
  next => exact absurd done (Run.not_returns_throw _ _)

namespace Registry

def names (g : Registry) : List String := g.entries.map (·.profile.format)

/-- Some format of this name is registered, and the name does not lead to it. -/
def IsHidden (g : Registry) (name : String) : Prop :=
  ∃ r ∈ g.entries, r.profile.format = name ∧ g.find? name ≠ some r

/-- What a document is put into: the registry without the rules it replaces. -/
def cleared (g : Registry) (name : String) : Registry := (g.unregister? name).getD g

theorem cleared_sublist (g : Registry) (name : String) :
    (g.cleared name).entries.Sublist g.entries := by
  unfold cleared
  cases done : g.unregister? name with
  | none => exact List.Sublist.refl _
  | some g' =>
    obtain ⟨r, -, -, rfl⟩ := unregister?_eq_some done
    exact List.filter_sublist

theorem cleared_nextSerial (g : Registry) (name : String) :
    (g.cleared name).nextSerial = g.nextSerial := by
  unfold cleared
  cases done : g.unregister? name with
  | none => rfl
  | some g' =>
    obtain ⟨r, -, -, rfl⟩ := unregister?_eq_some done
    rfl

/-- A document has come in as the registration `r`, behind all that it did not replace. -/
structure IsLoading [Host] (g : Registry) (text name : String) (r : Registration) (g' : Registry) :
    Prop where
  isNew : r ∉ g.entries
  rules : ∃ rules, (RuleSet.read text).Returns rules ∧ r.format = rules.format
  named : r.profile.format = name
  plain : name.isEmpty = false ∧ Text.stripped name = name
  entries : g'.entries = (g.cleared name).entries ++ [r]
  leads : g'.find? name = some r

namespace Standing

variable {g : Registry}

/-- The rules that a name leads to are replaced if they have it as their own, and no others. -/
theorem mem_cleared [Host] (valid : g.Standing) {name : String} {r : Registration} :
    r ∈ (g.cleared name).entries ↔
      r ∈ g.entries ∧ ¬(r.profile.format = name ∧ g.find? name = some r) := by
  unfold cleared
  cases done : g.unregister? name with
  | none =>
    suffices r ∈ g.entries → ¬(r.profile.format = name ∧ g.find? name = some r) by
      simpa using this
    rintro - ⟨own, found⟩
    simp [unregister?, found, own] at done
  | some g' =>
    obtain ⟨gone, found, own, rfl⟩ := unregister?_eq_some done
    have present := (valid.find?_mem found).1
    -- What goes is told by its serial number, which no other registration has.
    suffices apart : r ∈ g.entries → (r.serial ≠ gone.serial ↔
        ¬(r.profile.format = name ∧ g.find? name = some r)) by
      rw [Option.getD_some, Registry.remove, List.mem_filter, bne_iff_ne]
      exact and_congr_right apart
    intro member
    refine not_congr ⟨fun same => ?_, fun both => ?_⟩
    · rw [valid.eq_of_serial member present same]
      exact ⟨own, found⟩
    · rw [Option.some.inj (both.2.symm.trans found)]

/-- Rules that are hidden under their name are the ones that stay when it is taken again. -/
theorem isHidden_iff [Host] (valid : g.Standing) (name : String) :
    g.IsHidden name ↔ name ∈ (g.cleared name).names := by
  simp only [IsHidden, names, List.mem_map, valid.mem_cleared]
  constructor
  · rintro ⟨r, member, own, other⟩
    exact ⟨r, ⟨member, fun both => other both.2⟩, own⟩
  · rintro ⟨r, ⟨member, apart⟩, own⟩
    exact ⟨r, member, own, fun leads => apart ⟨own, leads⟩⟩

theorem isLoading [Host] (valid : g.Standing) {text name : String} {g' : Registry}
    (loaded : (g.load text).Returns (name, g')) : ∃ r, g.IsLoading text name r g' := by
  obtain ⟨rules, read, -, rfl, rfl⟩ := load_returns loaded
  obtain ⟨m, format, priority, aliases, groups, given, made⟩ := RuleSet.read_returns read
  have plain := RuleSet.readName_returns given
  have own : rules.profile.format = format := by rw [made, RuleSet.profileOf]
  have named : rules.format.profile.format.isEmpty = false := own ▸ plain.1
  refine ⟨⟨(g.cleared rules.profile.format).nextSerial, rules.format⟩, ?_, ⟨rules, read, rfl⟩,
    rfl, own ▸ plain, register_entries _ named, ?_⟩
  · intro old
    have less := valid.fresh _ old
    rw [cleared_nextSerial] at less
    exact lt_irrefl _ less
  · rw [find?_register _ named, if_pos (by simp [Profile.keys, RuleSet.format, Format.ofLines])]
    rfl

end Standing

namespace IsLoading

variable {g g' : Registry} {text name : String} {r : Registration}

theorem names_eq [Host] (loading : g.IsLoading text name r g') :
    g'.names = (g.cleared name).names ++ [name] := by
  simp [names, loading.entries, loading.named]

/-- Names stay distinct unless the document's name is hidden. -/
theorem names_nodup [Host] (loading : g.IsLoading text name r g') (valid : g.Standing)
    (distinct : g.names.Nodup) : g'.names.Nodup ↔ ¬g.IsHidden name := by
  have kept : (g.cleared name).names.Nodup :=
    distinct.sublist ((cleared_sublist g name).map _)
  rw [loading.names_eq, valid.isHidden_iff, List.nodup_append_comm]
  simp [kept]

/-- What has come in is alone under its name unless the name is hidden. -/
theorem filter_name [Host] (loading : g.IsLoading text name r g') (valid : g.Standing) :
    g'.entries.filter (·.profile.format == name) = [r] ↔ ¬g.IsHidden name := by
  rw [loading.entries, List.filter_append, List.filter_cons_of_pos (by simp [loading.named]),
    List.filter_nil, List.append_left_eq_self, List.filter_eq_nil_iff, valid.isHidden_iff, names]
  simp

end IsLoading

theorem unload_sublist {g g' : Registry} {key : String}
    (done : (g.unload key).Returns (some g')) : g'.entries.Sublist g.entries := by
  obtain ⟨r, -, -, done⟩ := unload_returns done
  simpa [cleared, done] using cleared_sublist g r.profile.format

/-- A call keeps names distinct, unless it loads a document under a hidden name. -/
theorem call_names [Host] {s : Registry × Array Notice} (valid : s.1.Standing)
    (distinct : s.1.names.Nodup) (c : Call) :
    (call s c).1.names.Nodup ∨
    ∃ text name g, c = .load text ∧ (s.1.load text).Returns (name, g) ∧ s.1.IsHidden name := by
  rcases call_cases s c with same | ⟨text, name, called, done⟩ | ⟨key, -, done⟩
  · exact .inl (same ▸ distinct)
  · by_cases hidden : s.1.IsHidden name
    · exact .inr ⟨text, name, _, called, done, hidden⟩
    · obtain ⟨r, loading⟩ := valid.isLoading done
      exact .inl ((loading.names_nodup valid distinct).mpr hidden)
  · exact .inl (distinct.sublist ((unload_sublist done).map _))

theorem callAll_nil [Host] (g : Registry) (told : Array Notice) : g.callAll told [] = g := rfl

/-- The last call of a run starts from what the others have made. -/
theorem callAll_concat [Host] (g : Registry) (told : Array Notice) (calls : List Call) (c : Call) :
    ∃ told', g.callAll told (calls ++ [c]) = (call (g.callAll told calls, told') c).1 :=
  ⟨(calls.foldl call (g, told)).2, by simp [callAll]⟩

/-- Throughout a run names are distinct until a document is loaded under a hidden name. -/
theorem callAll_names [Host] (told : Array Notice) (calls : List Call) :
    (standard.callAll told calls).names.Nodup ∨
    ∃ before text after name g, calls = before ++ .load text :: after ∧
      ((standard.callAll told before).load text).Returns (name, g) ∧
      (standard.callAll told before).IsHidden name := by
  -- The last call is taken off: an earlier call under a hidden name stays one in the longer run.
  induction calls using List.reverseRecOn with
  | nil => exact .inl (show standard.names.Nodup from of_decide_eq_true rfl)
  | append_singleton calls c ih =>
    obtain distinct | ⟨before, text, after, name, g, rfl, loaded, hidden⟩ := ih
    · obtain ⟨told', last⟩ := callAll_concat standard told calls c
      rw [last]
      obtain kept | ⟨text, name, g, rfl, loaded, hidden⟩ :=
        call_names (s := (standard.callAll told calls, told')) (callAll_standing told calls)
          distinct c
      · exact .inl kept
      · exact .inr ⟨calls, text, [], name, g, rfl, loaded, hidden⟩
    · exact .inr ⟨before, text, after ++ [c], name, g, by simp, loaded, hidden⟩

/-- After any calls of the catalog names are distinct, unless some call loaded a document under a
name that was hidden then. What a document makes is new and found by its name; it is the only
format of this name, and names that were distinct stay so, exactly if its name is not hidden. -/
theorem names_callAll [Host] (told : Array Notice) (calls : List Call) :
    let g := standard.callAll told calls
    (g.names.Nodup ∨
      ∃ before text after name h, calls = before ++ .load text :: after ∧
        ((standard.callAll told before).load text).Returns (name, h) ∧
        (standard.callAll told before).IsHidden name) ∧
    ∀ text name g', (g.load text).Returns (name, g') →
      ∃ r, r ∉ g.entries ∧
        (∃ rules, (RuleSet.read text).Returns rules ∧ r.format = rules.format) ∧
        g'.find? name = some r ∧
        (g'.entries.filter (·.profile.format == name) = [r] ↔ ¬g.IsHidden name) ∧
        (g.names.Nodup → (g'.names.Nodup ↔ ¬g.IsHidden name)) := by
  intro g
  have valid : g.Standing := callAll_standing told calls
  refine ⟨callAll_names told calls, fun text name g' loaded => ?_⟩
  obtain ⟨r, loading⟩ := valid.isLoading loaded
  exact ⟨r, loading.isNew, loading.rules, loading.leads, loading.filter_name valid,
    loading.names_nodup valid⟩

/-- The first of the overlapping documents is hidden under its name by the alias of the second, so
a third one of this name does not replace it. -/
theorem names_overlappingCalls :
    let g := standard.callAll #[] overlappingCalls
    g.names.Nodup ∧ g.IsHidden "a" ∧
    ∃ r g', (g.load (ruledText "a" "")).Returns ("a", g') ∧ g'.find? "a" = some r ∧
      g'.entries.filter (·.profile.format == "a") ≠ [r] ∧ ¬g'.names.Nodup := by
  intro g
  have came : g = (standard.register (ruledSet "a" ["x"]).format).register
      (ruledSet "b" ["a"]).format := congrArg Prod.fst foldl_overlapping
  have distinct : g.names.Nodup := by
    rw [came]
    decide
  have hidden : g.IsHidden "a" := by
    obtain ⟨a, b, -, -, nameA, nameB, -, -, stands, other, -⟩ := callAll_overlappingCalls
    have present := ((callAll_standing #[] overlappingCalls).find?_mem stands).1
    refine ⟨a, present, nameA, fun leads => ?_⟩
    cases other.symm.trans leads
    rw [nameA] at nameB
    contradiction
  have loaded : (g.load (ruledText "a" "")).Returns
      ("a", (g.cleared "a").register (ruledSet "a" []).format) := by
    have free : ∀ key ∈ ["a"], g.isBuiltin key = false := by
      rw [came]
      decide
    rw [load_ruled g (ruledText "a" "") "a" [] document_alone (by decide) (by decide) free]
    exact Run.returns_pure.mpr rfl
  obtain ⟨r, -, -, leads, alone, stay⟩ :=
    (names_callAll #[] overlappingCalls).2 (ruledText "a" "") "a" _ loaded
  exact ⟨distinct, hidden, r, _, loaded, leads, fun only => alone.mp only hidden,
    fun kept => (stay distinct).mp kept hidden⟩

/-- After any calls of the catalog the formats that are always known are registered in their order,
and each of their names and aliases leads to the same one of them. -/
theorem callAll_keeps_builtins [Host] (told : Array Notice) (calls : List Call) :
    let g := standard.callAll told calls
    standard.entries.map (·.format) = Format.builtins ∧
    g.entries.filter (·.profile.isBuiltin) = standard.entries ∧
    ∀ r ∈ standard.entries, ∀ key ∈ r.profile.keys, g.find? key = some r := by
  intro g
  have valid : g.Standing := callAll_standing told calls
  exact ⟨standard_formats, valid.builtins, fun r known key own => valid.find?_standard known own⟩

/-- Attempts on the name and on an alias of one format, by documents, by one that is no JSON, and
by requests to take the format out. -/
def takeoverCalls : List Call :=
  [.load (ruledText "gcc_text" ""), .load (ruledText "mine" "\"gcc\""), .load "gcc_text",
    .unload "gcc", .load (ruledText "mine" ""), .unload "gcc_text", .unload "mine"]

theorem find?_takeoverCalls :
    let r : Registration := ⟨3, Format.CompilerText.format⟩
    r ∈ standard.entries ∧ "gcc" ∈ r.profile.keys ∧
    (standard.callAll #[] takeoverCalls).find? "gcc" = some r := by
  intro r
  have known : r ∈ standard.entries := by
    have at_place : standard.entries[3]? = some r := rfl
    exact List.mem_of_getElem? at_place
  have own : "gcc" ∈ r.profile.keys := by decide
  exact ⟨known, own, (callAll_keeps_builtins #[] takeoverCalls).2.2 r known "gcc" own⟩

end Registry

end BuildLog
