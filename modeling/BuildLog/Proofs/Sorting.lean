/-! Sorting that keeps the order of equals. The sorted list is the only one that is in order and
holds the elements of every rank as they stood before, so sorting and choosing some of the elements
can be done in either order. -/
namespace BuildLog.Sorting

/-- An order in which any two elements can be compared; distinct ones may be of equal rank. -/
structure IsRanking (le : α → α → Bool) : Prop where
  trans : ∀ a b c, le a b → le b c → le a c
  total : ∀ a b, le a b || le b a

def tied (le : α → α → Bool) (a b : α) : Bool := le a b && le b a

variable {le : α → α → Bool}

theorem IsRanking.refl (ranking : IsRanking le) (a : α) : le a a = true := by
  simpa using ranking.total a a

theorem tied_self (ranking : IsRanking le) (a : α) : tied le a a = true := by
  simp [tied, ranking.refl]

theorem tied_comparable (ranking : IsRanking le) (a : α) {b c : α}
    (first : tied le a b = true) (second : tied le a c = true) : le b c = true := by
  simp only [tied, Bool.and_eq_true] at first second
  exact ranking.trans b a c first.2 second.1

theorem pairwise_mergeSort (ranking : IsRanking le) (l : List α) :
    (l.mergeSort le).Pairwise (fun a b => le a b = true) :=
  List.pairwise_mergeSort ranking.trans ranking.total l

/-- Elements of one rank keep their order. -/
theorem filter_mergeSort (ranking : IsRanking le) (p : α → Bool)
    (comparable : ∀ a b, p a = true → p b = true → le a b = true) (l : List α) :
    (l.mergeSort le).filter p = l.filter p := by
  have ordered : (l.filter p).Pairwise (fun a b => le a b = true) := by
    apply List.pairwise_iff_forall_sublist.mpr
    intro a b pair
    have member := fun c (h : c ∈ [a, b]) => (List.mem_filter.mp (pair.subset h)).2
    exact comparable a b (member a (by simp)) (member b (by simp))
  have kept : (l.filter p).Sublist (l.mergeSort le) :=
    List.sublist_mergeSort ranking.trans ranking.total ordered List.filter_sublist
  have inside : (l.filter p).Sublist ((l.mergeSort le).filter p) := by
    simpa using kept.filter p
  exact (inside.eq_of_length ((List.mergeSort_perm l le).filter p).length_eq.symm).symm

/-- Two lists in order that agree on every rank are the same. -/
theorem eq_of_pairwise (ranking : IsRanking le) (l m : List α)
    (hl : l.Pairwise (fun a b => le a b = true)) (hm : m.Pairwise (fun a b => le a b = true))
    (same : ∀ a, l.filter (tied le a) = m.filter (tied le a)) : l = m := by
  induction l generalizing m with
  | nil =>
    cases m with
    | nil => rfl
    | cons y ys =>
      have h := same y
      simp [tied_self ranking] at h
  | cons x xs ih =>
    have memX : x ∈ m := by
      have : x ∈ (x :: xs).filter (tied le x) := by simp [tied_self ranking]
      rw [same x] at this
      exact (List.mem_filter.mp this).1
    cases m with
    | nil => simp at memX
    | cons y ys =>
      have memY : y ∈ x :: xs := by
        have : y ∈ (y :: ys).filter (tied le y) := by simp [tied_self ranking]
        rw [← same y] at this
        exact (List.mem_filter.mp this).1
      have xy : le x y = true := by
        rcases List.mem_cons.mp memY with rfl | later
        · exact ranking.refl y
        · exact List.rel_of_pairwise_cons hl later
      have yx : le y x = true := by
        rcases List.mem_cons.mp memX with rfl | later
        · exact ranking.refl x
        · exact List.rel_of_pairwise_cons hm later
      have heads : x = y := by
        have h := same x
        simp [tied, xy, yx, ranking.refl] at h
        exact h.1
      subst heads
      have tails : xs = ys := by
        apply ih ys hl.tail hm.tail
        intro a
        have h := same a
        simp only [List.filter_cons] at h
        split at h
        · exact (List.cons.inj h).2
        · exact h
      rw [tails]

theorem filter_mergeSort_comm (ranking : IsRanking le) (p : α → Bool) (l : List α) :
    (l.mergeSort le).filter p = (l.filter p).mergeSort le := by
  apply eq_of_pairwise ranking
  · exact (pairwise_mergeSort ranking l).filter p
  · exact pairwise_mergeSort ranking _
  · intro a
    have comparable : ∀ b c, tied le a b = true → tied le a c = true → le b c = true :=
      fun _ _ => tied_comparable ranking a
    calc ((l.mergeSort le).filter p).filter (tied le a)
        = ((l.mergeSort le).filter (tied le a)).filter p := by
          simp only [List.filter_filter, Bool.and_comm]
      _ = (l.filter p).filter (tied le a) := by
          rw [filter_mergeSort ranking _ comparable]
          simp only [List.filter_filter, Bool.and_comm]
      _ = ((l.filter p).mergeSort le).filter (tied le a) :=
          (filter_mergeSort ranking _ comparable _).symm

end BuildLog.Sorting
