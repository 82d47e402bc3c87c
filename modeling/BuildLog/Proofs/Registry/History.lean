import BuildLog.Proofs.Sorting
import BuildLog.Registry.Basic

/-! What a registry has become after any operations on it. The index, the stored view and its flag
are kept up by each operation in its own way; the history is told by the formats alone, with their
order of registration. Both agree after every run, wherever look-ups stand in it. -/
namespace BuildLog.Registry

open Sorting (IsRanking)

inductive Operation where
  /-- A format that was registered before may come again. -/
  | add (r : Registration)
  | unregister (name : String)
  | clear
  /-- A look-up by priority, which may make the view anew. Other look-ups change nothing. -/
  | rank

def perform (g : Registry) : Operation → Registry
  | .add r => g.add r
  | .unregister name => (g.unregister? name).getD g
  | .clear => g.clear
  | .rank => g.sorted.2

def performAll (g : Registry) (ops : List Operation) : Registry := ops.foldl perform g

def owner? (present : List Registration) (key : String) : Option Registration :=
  (present.filter (key ∈ ·.profile.keys)).getLast?

/-- What is registered after an operation. A format that is taken out goes with all its
registrations. -/
def keep (present : List Registration) : Operation → List Registration
  | .add r => if r.profile.format.isEmpty then present else present ++ [r]
  | .unregister name =>
    match owner? present name with
    | some r =>
      if r.profile.format = name then present.filter (·.serial != r.serial) else present
    | none => present
  | .clear => []
  | .rank => present

/-- What is registered after operations on an empty registry, in the order of registration. -/
def present (ops : List Operation) : List Registration := ops.foldl keep []

/-- The index and the stored view say what the entries say. -/
structure Consistent (g : Registry) : Prop where
  index : g.index = g.entries.foldl addKeys []
  view : g.isStale = false → g.view = byPriority g.entries

theorem lookup_keys (keys : List String) (r : Registration) (key : String) :
    (keys.map (·, r)).lookup key = if key ∈ keys then some r else none := by
  induction keys with
  | nil => rfl
  | cons k keys ih =>
    by_cases same : key = k
    · simp [same]
    · have differ : (key == k) = false := by simpa using same
      simp [List.lookup_cons, ih, same, differ]

theorem lookup_addKeys (index : List (String × Registration)) (r : Registration) (key : String) :
    (addKeys index r).lookup key = if key ∈ r.profile.keys then some r else index.lookup key := by
  rw [addKeys, ← List.map_reverse, List.lookup_append, lookup_keys]
  by_cases h : key ∈ r.profile.keys <;> simp [h]

theorem owner?_cons (r : Registration) (rest : List Registration) (key : String) :
    owner? (r :: rest) key =
      (owner? rest key).or (if key ∈ r.profile.keys then some r else none) := by
  by_cases h : key ∈ r.profile.keys
  · unfold owner?
    rw [List.filter_cons_of_pos (by simpa using h), List.getLast?_cons, if_pos h]
    cases (rest.filter (key ∈ ·.profile.keys)).getLast? <;> rfl
  · simp [owner?, h]

/-- Later registrations take the keys of earlier ones. -/
theorem lookup_foldl_addKeys (entries : List Registration) (index : List (String × Registration))
    (key : String) :
    (entries.foldl addKeys index).lookup key = (owner? entries key).or (index.lookup key) := by
  induction entries generalizing index with
  | nil => simp [owner?]
  | cons r rest ih =>
    rw [List.foldl_cons, ih, lookup_addKeys, owner?_cons]
    by_cases h : key ∈ r.profile.keys <;> simp [h]

theorem Consistent.find?_eq {g : Registry} (valid : g.Consistent) (key : String) :
    g.find? key = owner? g.entries key := by
  rw [find?, valid.index, lookup_foldl_addKeys]
  simp

theorem Consistent.ranked_eq {g : Registry} (valid : g.Consistent) :
    g.ranked = byPriority g.entries := by
  unfold ranked sorted
  cases stale : g.isStale with
  | true => simp
  | false => simpa using valid.view stale

theorem owner?_mem {present : List Registration} {key : String} {r : Registration}
    (owner : owner? present key = some r) : r ∈ present ∧ key ∈ r.profile.keys := by
  have member := List.mem_of_getLast? owner
  simpa using member

theorem empty_consistent : empty.Consistent := ⟨rfl, fun _ => by simp [empty, byPriority]⟩

theorem add_consistent {g : Registry} (valid : g.Consistent) (r : Registration) :
    (g.add r).Consistent := by
  unfold add
  split
  · exact valid
  · exact ⟨by simp [valid.index], by simp⟩

theorem remove_consistent (g : Registry) (r : Registration) : (g.remove r).Consistent :=
  ⟨rfl, by simp [remove]⟩

theorem sorted_consistent {g : Registry} (valid : g.Consistent) : g.sorted.2.Consistent := by
  unfold sorted
  split
  · exact ⟨valid.index, fun _ => rfl⟩
  · exact valid

theorem sorted_entries (g : Registry) : g.sorted.2.entries = g.entries := by
  unfold sorted
  split <;> rfl

theorem unregister?_eq_some {g g' : Registry} {name : String}
    (done : g.unregister? name = some g') :
    ∃ r, g.find? name = some r ∧ r.profile.format = name ∧ g' = g.remove r := by
  unfold unregister? at done
  split at done
  next r found =>
    split at done
    next own => exact ⟨r, found, by simpa using own, (Option.some.inj done).symm⟩
    next => contradiction
  next => contradiction

theorem perform_consistent {g : Registry} (valid : g.Consistent) (op : Operation) :
    (g.perform op).Consistent := by
  cases op with
  | add r => exact add_consistent valid r
  | unregister name =>
    cases done : g.unregister? name with
    | none => simpa [perform, done] using valid
    | some g' =>
      obtain ⟨r, _, _, rfl⟩ := unregister?_eq_some done
      simpa [perform, done] using remove_consistent g r
  | clear => exact ⟨rfl, fun _ => by simp [perform, clear, byPriority]⟩
  | rank => exact sorted_consistent valid

/-- Every operation changes the entries as the history tells. -/
theorem perform_entries {g : Registry} (valid : g.Consistent) (op : Operation) :
    (g.perform op).entries = keep g.entries op := by
  cases op with
  | add r =>
    simp only [perform, add, keep]
    split <;> rfl
  | unregister name =>
    simp only [perform, unregister?, valid.find?_eq, keep]
    cases owner? g.entries name with
    | none => rfl
    | some r =>
      by_cases own : r.profile.format = name
      · simp [own, remove]
      · simp [own]
  | clear => rfl
  | rank => exact sorted_entries g

theorem performAll_consistent {g : Registry} (valid : g.Consistent) (ops : List Operation) :
    (g.performAll ops).Consistent := by
  induction ops generalizing g with
  | nil => exact valid
  | cons op ops ih => exact ih (perform_consistent valid op)

theorem performAll_entries {g : Registry} (valid : g.Consistent) (ops : List Operation) :
    (g.performAll ops).entries = ops.foldl keep g.entries := by
  induction ops generalizing g with
  | nil => rfl
  | cons op ops ih =>
    rw [List.foldl_cons, ← perform_entries valid op]
    exact ih (perform_consistent valid op)

def ranksBefore (a b : Registration) : Bool := b.profile.priority ≤ a.profile.priority

theorem ranksBefore_ranking : IsRanking ranksBefore where
  trans a b c ab bc := by
    simp only [ranksBefore, decide_eq_true_eq] at *
    omega
  total a b := by
    simp only [ranksBefore, Bool.or_eq_true, decide_eq_true_eq]
    omega

theorem byPriority_perm (entries : List Registration) : (byPriority entries).Perm entries :=
  List.mergeSort_perm _ _

theorem byPriority_pairwise (entries : List Registration) :
    (byPriority entries).Pairwise fun a b => b.profile.priority ≤ a.profile.priority :=
  (Sorting.pairwise_mergeSort ranksBefore_ranking entries).imp fun h => by
    simpa [ranksBefore] using h

/-- Formats of one priority stand in the order of their registration. -/
theorem byPriority_filter_priority (entries : List Registration) (p : Int) :
    (byPriority entries).filter (·.profile.priority == p) =
      entries.filter (·.profile.priority == p) := by
  refine Sorting.filter_mergeSort ranksBefore_ranking _ (fun a b ha hb => ?_) entries
  simp only [beq_iff_eq] at ha hb
  simp [ranksBefore, ha, hb]

/-- After any operations a key stands for the last format that is still registered and has it,
and the view by priority holds exactly the formats still registered, the greatest priority first
and those of one priority in the order of their registration. -/
theorem performAll_represents_present (ops : List Operation) :
    let g := empty.performAll ops
    (∀ key, g.find? key = owner? (present ops) key) ∧
    g.sorted.1.Perm (present ops) ∧
    g.sorted.1.Pairwise (fun a b => b.profile.priority ≤ a.profile.priority) ∧
    ∀ p, g.sorted.1.filter (·.profile.priority == p) =
      (present ops).filter (·.profile.priority == p) := by
  intro g
  have valid : g.Consistent := performAll_consistent empty_consistent ops
  have entries : g.entries = present ops := performAll_entries empty_consistent ops
  have view : g.sorted.1 = byPriority (present ops) := entries ▸ valid.ranked_eq
  refine ⟨fun key => ?_, ?_, ?_, fun p => ?_⟩
  · rw [valid.find?_eq, entries]
  · exact view ▸ byPriority_perm _
  · exact view ▸ byPriority_pairwise _
  · exact view ▸ byPriority_filter_priority _ p

end BuildLog.Registry
