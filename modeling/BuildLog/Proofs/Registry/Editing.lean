import BuildLog.Proofs.Registry.Unloading

/-! The catalog's calls as they change a registry in place. A call goes step by step, and what it
has changed stays changed if a later step is at fault. Nothing is changed before the last step that
can be at fault, so a document that is not loaded leaves the registry as it was. Whatever a call
changes, operations on the registry change likewise, and what they keep is kept by the calls. -/
namespace BuildLog.Registry

/-- A computation that works on a registry in place and tells notices. -/
abbrev Edit (α : Type) : Type := ExceptT Fault (StateM (Registry × Array Notice)) α

namespace Edit

def aside (x : Run α) : Edit α := fun (g, told) => ((x told).1, g, (x told).2)

def ask (f : Registry → α) : Edit α := fun (g, told) => (.ok (f g), g, told)

def change (f : Registry → Registry) : Edit Unit := fun (g, told) => (.ok (), f g, told)

def unregister (name : String) : Edit Bool := do
  match ← ask (·.unregister? name) with
  | none => return false
  | some g =>
    change fun _ => g
    return true

def checkKeys (format : String) : List String → Edit Unit
  | [] => return ()
  | key :: rest => do
    if ← ask (·.isBuiltin key) then
      throw (.config (if key == format then .replacesBuiltin key else .shadowsBuiltin key))
    else checkKeys format rest

/-- Rules that are found under the document's name are taken out, if it is their own, before the
new ones come in. -/
def load [Host] (text : String) : Edit String := do
  let rules ← aside (RuleSet.read text)
  checkKeys rules.profile.format rules.profile.keys
  if ← ask (·.has rules.profile.format) then
    let _ ← unregister rules.profile.format
  change (·.register rules.format)
  return rules.profile.format

def unload (key : String) : Edit Bool := do
  match ← ask (·.find? key) with
  | none => return false
  | some r =>
    if r.profile.isBuiltin then
      aside (Run.tell (.builtinKept key))
      return false
    else unregister r.profile.format

theorem bind_apply (x : Edit α) (f : α → Edit β) (s : Registry × Array Notice) :
    (x >>= f) s =
      match x s with
      | (.ok a, s') => f a s'
      | (.error e, s') => (.error e, s') := by
  change ExceptT.bindCont f (x s).1 (x s).2 = _
  cases x s with
  | mk result s' => cases result <;> rfl

theorem unregister_apply (name : String) (g : Registry) (told : Array Notice) :
    unregister name (g, told) =
      (.ok (g.unregister? name).isSome, (g.unregister? name).getD g, told) := by
  rw [unregister, bind_apply, ask]
  cases g.unregister? name <;> rfl

/-- The first key that belongs to a format which is always known is the one that is told. -/
theorem checkKeys_apply (format : String) (keys : List String) (g : Registry)
    (told : Array Notice) :
    checkKeys format keys (g, told) =
      match keys.find? g.isBuiltin with
      | none => (.ok (), g, told)
      | some key =>
        (.error (.config
          (if key == format then .replacesBuiltin key else .shadowsBuiltin key)), g, told) := by
  induction keys with
  | nil => rfl
  | cons key rest ih =>
    rw [checkKeys, bind_apply, ask]
    cases taken : g.isBuiltin key with
    | true =>
      rw [List.find?_cons_of_pos taken]
      rfl
    | false =>
      rw [List.find?_cons_of_neg (by simp [taken]), ← ih]
      rfl

/-- Taking out what a name leads to can be left undone if the name leads nowhere. -/
theorem unregister?_of_not_has {g : Registry} {name : String} (absent : g.has name = false) :
    g.unregister? name = none := by
  have nowhere : g.find? name = none := by simpa [has] using absent
  simp only [unregister?, nowhere]

/-- In place a document is loaded to the same end, and if it is not loaded then the registry is
left as it was. -/
theorem load_apply [Host] (text : String) (g : Registry) (told : Array Notice) :
    load text (g, told) =
      match g.load text told with
      | (.ok (name, g'), told') => (.ok name, g', told')
      | (.error e, told') => (.error e, g, told') := by
  rw [load, bind_apply, aside, Registry.load, Run.bind_apply]
  rcases RuleSet.read text told with ⟨e | rules, told'⟩
  · rfl
  · dsimp only
    rw [bind_apply, checkKeys_apply, protectedKey?]
    cases rules.profile.keys.find? g.isBuiltin with
    | some key => rfl
    | none =>
      dsimp only
      rw [bind_apply, ask]
      cases known : g.has rules.profile.format with
      | true =>
        dsimp only
        rw [if_pos rfl, bind_apply, unregister_apply]
        rfl
      | false =>
        rw [unregister?_of_not_has known]
        rfl

theorem unload_apply (key : String) (g : Registry) (told : Array Notice) :
    unload key (g, told) =
      match g.unload key told with
      | (.ok g', told') => (.ok g'.isSome, g'.getD g, told')
      | (.error e, told') => (.error e, g, told') := by
  rw [unload, bind_apply, ask, Registry.unload]
  cases g.find? key with
  | none => rfl
  | some r =>
    dsimp only
    cases r.profile.isBuiltin with
    | true => rfl
    | false =>
      rw [if_neg Bool.false_ne_true, if_neg Bool.false_ne_true, unregister_apply]
      rfl

end Edit

/-- Registries that come of an empty one by operations and by calls of the catalog, which are made
in place and may fail. -/
inductive Reached [Host] : Registry → Prop
  | empty : Reached empty
  | operation {g} (earlier : Reached g) (op : Operation) : Reached (g.perform op)
  | load {g} (earlier : Reached g) (text : String) (told : Array Notice) :
    Reached (Edit.load text (g, told)).2.1
  | unload {g} (earlier : Reached g) (key : String) (told : Array Notice) :
    Reached (Edit.unload key (g, told)).2.1

/-- What operations keep: the index and the view say what the entries say, no entry is without a
name, and new formats get serial numbers of their own. -/
structure IsSound (g : Registry) : Prop where
  consistent : g.Consistent
  named : ∀ r ∈ g.entries, r.profile.format.isEmpty = false
  fresh : ∀ r ∈ g.entries, r.serial < g.nextSerial

theorem perform_sound {g : Registry} (sound : g.IsSound) (op : Operation) :
    (g.perform op).IsSound := by
  have consistent := perform_consistent sound.consistent op
  cases op with
  | add r =>
    cases named : r.profile.format.isEmpty with
    | true =>
      have ignored : g.add r = g := by simp [add, named]
      rw [perform, ignored]
      exact sound
    | false =>
      have entries : (g.add r).entries = g.entries ++ [r] := by simp [add, named]
      have next : (g.add r).nextSerial = max g.nextSerial (r.serial + 1) := by simp [add, named]
      refine ⟨consistent, ?_, ?_⟩
      · rw [perform, entries, List.forall_mem_append, List.forall_mem_singleton]
        exact ⟨sound.named, named⟩
      · rw [perform, entries, next, List.forall_mem_append, List.forall_mem_singleton]
        refine ⟨fun old member => ?_, by omega⟩
        have less := sound.fresh old member
        omega
  | unregister name =>
    cases done : g.unregister? name with
    | none =>
      rw [perform, done]
      exact sound
    | some g' =>
      obtain ⟨r, -, -, rfl⟩ := unregister?_eq_some done
      rw [perform, done] at consistent ⊢
      refine ⟨consistent, fun old kept => ?_, fun old kept => ?_⟩
      · exact sound.named old (List.mem_filter.mp kept).1
      · exact sound.fresh old (List.mem_filter.mp kept).1
  | clear => exact ⟨consistent, List.forall_mem_nil _, List.forall_mem_nil _⟩
  | rank =>
    have next : g.sorted.2.nextSerial = g.nextSerial := by
      unfold sorted
      split <;> rfl
    refine ⟨consistent, ?_, ?_⟩
    · rw [perform, sorted_entries]
      exact sound.named
    · rw [perform, sorted_entries, next]
      exact sound.fresh

theorem performAll_sound {g : Registry} (sound : g.IsSound) (ops : List Operation) :
    (g.performAll ops).IsSound := by
  induction ops generalizing g with
  | nil => exact sound
  | cons op ops ih => exact ih (perform_sound sound op)

/-- What a call of the catalog changes is what some operations change. -/
theorem Edit.load_performs [Host] (text : String) (g : Registry) (told : Array Notice) :
    ∃ ops, (Edit.load text (g, told)).2.1 = g.performAll ops := by
  rw [Edit.load_apply]
  rcases done : g.load text told with ⟨e | ⟨name, g'⟩, told'⟩
  · exact ⟨[], rfl⟩
  · obtain ⟨rules, -, -, -, rfl⟩ := load_returns ⟨told, told', done⟩
    let cleared := (g.unregister? rules.profile.format).getD g
    exact ⟨[.unregister rules.profile.format, .add ⟨cleared.nextSerial, rules.format⟩], rfl⟩

theorem Edit.unload_performs (key : String) (g : Registry) (told : Array Notice) :
    ∃ ops, (Edit.unload key (g, told)).2.1 = g.performAll ops := by
  rw [Edit.unload_apply]
  rcases done : g.unload key told with ⟨e | _ | g', told'⟩
  · exact ⟨[], rfl⟩
  · exact ⟨[], rfl⟩
  · obtain ⟨r, -, -, taken⟩ := unload_returns ⟨told, told', done⟩
    refine ⟨[.unregister r.profile.format], ?_⟩
    simp only [performAll, List.foldl_cons, List.foldl_nil, perform, taken, Option.getD_some]

namespace Reached

theorem ofFormats [Host] (formats : List Format) : Reached (ofFormats formats) := by
  have all (g : Registry) (reached : Reached g) : Reached (formats.foldl register g) := by
    induction formats generalizing g with
    | nil => exact reached
    | cons f rest ih => exact ih _ (reached.operation (.add ⟨g.nextSerial, f⟩))
  exact all _ .empty

theorem sound [Host] {g : Registry} (reached : Reached g) : g.IsSound := by
  induction reached with
  | empty => exact ⟨empty_consistent, List.forall_mem_nil _, List.forall_mem_nil _⟩
  | operation _ op ih => exact perform_sound ih op
  | load _ text told ih =>
    obtain ⟨ops, same⟩ := Edit.load_performs text _ told
    rw [same]
    exact performAll_sound ih ops
  | unload _ key told ih =>
    obtain ⟨ops, same⟩ := Edit.unload_performs key _ told
    rw [same]
    exact performAll_sound ih ops

end Reached

end BuildLog.Registry
