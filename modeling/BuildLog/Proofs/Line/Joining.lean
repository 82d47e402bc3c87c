import BuildLog.Proofs.Line.Ending

/-! Lines joined into a text again. The lines of the text are those that were joined, each in its
place; only an empty one at the end is lost. -/
namespace BuildLog.Line

def IsUnbroken (u : List Char) : Prop := ∀ c ∈ u, c ≠ '\r' ∧ c ≠ '\n'

theorem isUnbroken_nil : IsUnbroken [] := by simp [IsUnbroken]

theorem isUnbroken_cons {c : Char} {u : List Char} :
    IsUnbroken (c :: u) ↔ (c ≠ '\r' ∧ c ≠ '\n') ∧ IsUnbroken u := by
  simp [IsUnbroken]

theorem isUnbroken_append {u v : List Char} :
    IsUnbroken (u ++ v) ↔ IsUnbroken u ∧ IsUnbroken v := by
  simp only [IsUnbroken, List.forall_mem_append]

theorem isUnbroken_replicate {c : Char} (inside : c ≠ '\r' ∧ c ≠ '\n') (n : Nat) :
    IsUnbroken (List.replicate n c) :=
  fun _ member => List.eq_of_mem_replicate member ▸ inside

theorem isUnbroken_reverse {u : List Char} : IsUnbroken u.reverse ↔ IsUnbroken u := by
  simp only [IsUnbroken, List.mem_reverse]

theorem splitFrom_isUnbroken {current : List Char} (begun : IsUnbroken current) (cs : List Char) :
    ∀ line ∈ splitFrom current cs, IsUnbroken line := by
  have ended {current : List Char} (begun : IsUnbroken current) {later : List (List Char)}
      (others : ∀ line ∈ later, IsUnbroken line) :
      ∀ line ∈ current.reverse :: later, IsUnbroken line :=
    List.forall_mem_cons.mpr ⟨isUnbroken_reverse.mpr begun, others⟩
  fun_induction splitFrom current cs with
  | case1 => simp
  | case2 current filled => exact ended begun (by simp)
  | case3 current rest ih => exact ended begun (ih isUnbroken_nil)
  | case4 current rest apart ih => exact ended begun (ih isUnbroken_nil)
  | case5 current rest ih => exact ended begun (ih isUnbroken_nil)
  | case6 current c rest _ back feed ih => exact ih (isUnbroken_cons.mpr ⟨⟨back, feed⟩, begun⟩)

theorem splitFrom_append {u : List Char} (unbroken : IsUnbroken u) (current rest : List Char) :
    splitFrom current (u ++ rest) = splitFrom (u.reverse ++ current) rest := by
  induction u generalizing current with
  | nil => rfl
  | cons c u ih =>
    obtain ⟨⟨back, feed⟩, unbroken⟩ := isUnbroken_cons.mp unbroken
    rw [List.cons_append, splitFrom_cons back feed, ih unbroken]
    simp

theorem split_append_feed {u : List Char} (unbroken : IsUnbroken u) (rest : List Char) :
    split (u ++ '\n' :: rest) = u :: split rest := by
  rw [split, splitFrom_append unbroken]
  simp [splitFrom, split]

theorem split_of_isUnbroken {u : List Char} (unbroken : IsUnbroken u) :
    split u = if u = [] then [] else [u] := by
  have whole := splitFrom_append unbroken [] []
  rw [List.append_nil, List.append_nil] at whole
  rw [split, whole, splitFrom, List.reverse_reverse]
  simp

theorem split_prefix {u : List Char} (unbroken : IsUnbroken u) : split u <+: [u] := by
  rw [split_of_isUnbroken unbroken]
  -- an empty text has no line
  split
  · exact List.nil_prefix
  · exact List.prefix_rfl

theorem split_intercalate_prefix {parts : List (List Char)}
    (unbroken : ∀ u ∈ parts, IsUnbroken u) : split (List.intercalate ['\n'] parts) <+: parts := by
  induction parts with
  | nil => simp [split, splitFrom]
  | cons u parts ih =>
    obtain ⟨first, unbroken⟩ := List.forall_mem_cons.mp unbroken
    cases parts with
    | nil =>
      rw [List.intercalate_singleton]
      exact split_prefix first
    | cons v parts =>
      rw [List.intercalate_cons_cons, List.append_assoc, List.singleton_append,
        split_append_feed first]
      exact List.cons_prefix_cons.mpr ⟨rfl, ih unbroken⟩

@[simp] theorem capped_number (limit number : Nat) (cs : List Char) :
    (capped limit number cs).number = number := by
  unfold capped
  split <;> rfl

theorem capped_text (limit number other : Nat) (cs : List Char) :
    (capped limit number cs).text = (capped limit other cs).text := by
  unfold capped
  split <;> rfl

theorem capped_isUnbroken {cs : List Char} (unbroken : IsUnbroken cs) (limit number : Nat) :
    IsUnbroken (capped limit number cs).text.toList := by
  unfold capped
  split
  · rw [String.toList_ofList, isUnbroken_append]
    exact ⟨fun c member => unbroken c (List.mem_of_mem_take member), by simp [cutMark, IsUnbroken]⟩
  · rwa [String.toList_ofList]

theorem capped_length_le {limit : Nat} (marked : cutMark.length ≤ limit) (number : Nat)
    (cs : List Char) : (capped limit number cs).text.toList.length ≤ limit := by
  unfold capped
  split
  · rw [String.toList_ofList, List.length_append, List.length_take]
    omega
  · rw [String.toList_ofList]
    omega

theorem getElem?_read (limit : Int) (content : String) (i : Nat) :
    (read limit content)[i]? =
      (split content.toList)[i]?.map (capped (effectiveLimit limit) (i + 1)) := by
  rw [read, List.getElem?_mapIdx]

theorem read_isUnbroken {limit : Int} {content : String} {line : Line}
    (member : line ∈ read limit content) : IsUnbroken line.text.toList := by
  obtain ⟨i, found⟩ := List.mem_iff_getElem?.mp member
  rw [getElem?_read] at found
  obtain ⟨cs, inside, rfl⟩ := Option.map_eq_some_iff.mp found
  exact capped_isUnbroken
    (splitFrom_isUnbroken isUnbroken_nil _ cs (List.mem_of_getElem? inside)) _ _

theorem read_length_le {limit : Int} {content : String} {line : Line}
    (member : line ∈ read limit content) : line.text.toList.length ≤ effectiveLimit limit := by
  obtain ⟨i, found⟩ := List.mem_iff_getElem?.mp member
  rw [getElem?_read] at found
  obtain ⟨cs, -, rfl⟩ := Option.map_eq_some_iff.mp found
  have marked : cutMark.length ≤ effectiveLimit limit := by
    simp only [cutMark, List.length_cons, List.length_nil, effectiveLimit]
    omega
  exact capped_length_le marked _ cs

/-- Every line is behind the one before. -/
theorem read_ascends (limit : Int) (content : String) :
    (read limit content).Pairwise fun a b => a.number < b.number := by
  rw [List.pairwise_iff_getElem]
  intro i j _ _ before
  simpa [read] using before

/-- A line of joined texts is one of these, in its place among them. -/
theorem mem_read_joined {limit : Int} {parts : List String}
    (unbroken : ∀ u ∈ parts, IsUnbroken u.toList) {line : Line}
    (member : line ∈ read limit (Text.joined "\n" parts)) :
    ∃ (i : Nat) (u : String), parts[i]? = some u ∧
      line = capped (effectiveLimit limit) (i + 1) u.toList := by
  obtain ⟨i, found⟩ := List.mem_iff_getElem?.mp member
  rw [getElem?_read] at found
  obtain ⟨cs, inside, rfl⟩ := Option.map_eq_some_iff.mp found
  have joined : (Text.joined "\n" parts).toList =
      List.intercalate ['\n'] (parts.map String.toList) := by
    simp [Text.joined]
  rw [joined] at inside
  have kept : ∀ cs ∈ parts.map String.toList, IsUnbroken cs := by simpa using unbroken
  obtain ⟨later, whole⟩ := split_intercalate_prefix kept
  have inside : (parts.map String.toList)[i]? = some cs := by
    rw [← whole, List.getElem?_append_left (List.getElem?_eq_some_iff.mp inside).1, inside]
  rw [List.getElem?_map] at inside
  obtain ⟨u, place, rfl⟩ := Option.map_eq_some_iff.mp inside
  exact ⟨i, u, place, rfl⟩

end BuildLog.Line
