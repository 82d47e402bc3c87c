import BuildLog.Proofs.Line.Joining

/-! Logs made of the lines that a limit leaves of another log. Read again under the same limit or a
smaller one, such a log has the lines that the other one has under it; only whether a line was cut
is no longer known. -/
namespace BuildLog.Line

def uncut (line : Line) : Line := { line with isCut := false }

@[simp] theorem uncut_text (line : Line) : line.uncut.text = line.text := rfl

@[simp] theorem uncut_number (line : Line) : line.uncut.number = line.number := rfl

def AgreeUnder (limit : Int) (content other : String) : Prop :=
  (read limit content).map uncut = (read limit other).map uncut

/-- The lines that a limit leaves of a log, a line feed behind each. -/
def delivered (limit : Int) (content : String) : String :=
  String.ofList ((read limit content).flatMap fun line => line.text.toList ++ ['\n'])

theorem split_flatMap_feed {parts : List (List Char)} (unbroken : ∀ u ∈ parts, IsUnbroken u) :
    split (parts.flatMap (· ++ ['\n'])) = parts := by
  induction parts with
  | nil => simp [split, splitFrom]
  | cons u rest ih =>
    obtain ⟨first, others⟩ := List.forall_mem_cons.mp unbroken
    rw [List.flatMap_cons, List.append_assoc, List.singleton_append, split_append_feed first,
      ih others]

theorem split_delivered (limit : Int) (content : String) :
    split (delivered limit content).toList =
      (read limit content).map fun line => line.text.toList := by
  have unbroken : ∀ u ∈ (read limit content).map (fun line => line.text.toList), IsUnbroken u := by
    intro u member
    obtain ⟨line, inside, rfl⟩ := List.mem_map.mp member
    exact read_isUnbroken inside
  have parts := split_flatMap_feed unbroken
  rw [List.flatMap_map] at parts
  rw [delivered, String.toList_ofList, parts]

theorem cutMark_length_le (limit : Int) : cutMark.length ≤ effectiveLimit limit := by
  simp only [cutMark, List.length_cons, List.length_nil, effectiveLimit]
  omega

theorem capped_of_short {limit number : Nat} {cs : List Char} (short : cs.length ≤ limit) :
    capped limit number cs = ⟨number, String.ofList cs, false⟩ := by
  rw [capped, if_neg (by omega)]

theorem capped_of_long {limit number : Nat} {cs : List Char} (long : limit < cs.length) :
    capped limit number cs =
      ⟨number, String.ofList (cs.take (limit - cutMark.length) ++ cutMark), true⟩ := by
  rw [capped, if_pos long]

/-- What is cut again need not have been cut before. -/
theorem capped_capped {a b : Nat} (marked : cutMark.length ≤ a) (smaller : a ≤ b)
    (number other : Nat) (cs : List Char) :
    (capped a number (capped b other cs).text.toList).uncut = (capped a number cs).uncut := by
  by_cases short : cs.length ≤ b
  · rw [capped_of_short short, String.toList_ofList]
  · have once : b < cs.length := by omega
    have long : a < cs.length := by omega
    have left : (cs.take (b - cutMark.length) ++ cutMark).length = b := by
      rw [List.length_append, List.length_take]
      omega
    rw [capped_of_long once, capped_of_long long, String.toList_ofList]
    by_cases same : a = b
    · rw [capped_of_short (by omega), same]
      rfl
    · have again : (cs.take (b - cutMark.length) ++ cutMark).take (a - cutMark.length) =
          cs.take (a - cutMark.length) := by
        have inside : a - cutMark.length ≤ (cs.take (b - cutMark.length)).length := by
          rw [List.length_take]
          omega
        rw [List.take_append_of_le_length inside, List.take_take, Nat.min_eq_left (by omega)]
      rw [capped_of_long (by omega), again]

theorem delivered_agreeUnder {kept limit : Int}
    (smaller : effectiveLimit kept ≤ effectiveLimit limit) (content : String) :
    AgreeUnder kept (delivered limit content) content := by
  apply List.ext_getElem?
  intro i
  simp only [List.getElem?_map, getElem?_read, split_delivered]
  cases (split content.toList)[i]? with
  | none => rfl
  | some cs =>
    have again := capped_capped (cutMark_length_le kept) smaller (i + 1) (i + 1) cs
    simp only [Option.map_some, again]

/-- What is left of a log has no line beyond the limit, under whatever greater one it is read. -/
theorem length_le_of_delivered {kept limit : Int}
    (smaller : effectiveLimit limit ≤ effectiveLimit kept) {content : String} {line : Line}
    (member : line ∈ read kept (delivered limit content)) :
    line.text.length ≤ effectiveLimit limit := by
  obtain ⟨i, place⟩ := List.mem_iff_getElem?.mp member
  rw [getElem?_read, split_delivered, List.getElem?_map, Option.map_map] at place
  obtain ⟨earlier, found, rfl⟩ := Option.map_eq_some_iff.mp place
  have short := read_length_le (List.mem_of_getElem? found)
  rw [Function.comp, capped_of_short (Nat.le_trans short smaller), String.ofList_toList,
    ← String.length_toList]
  exact short

def alone (cs : List Char) : String := String.ofList (cs ++ ['\n'])

theorem read_alone {cs : List Char} (unbroken : IsUnbroken cs) {limit : Int}
    (short : cs.length ≤ effectiveLimit limit) :
    read limit (alone cs) = [⟨1, String.ofList cs, false⟩] := by
  have lines : split (alone cs).toList = [cs] := by
    rw [alone, String.toList_ofList, split_append_feed unbroken]
    rfl
  rw [read, lines, List.mapIdx_cons, List.mapIdx_nil, capped_of_short short]

end BuildLog.Line
