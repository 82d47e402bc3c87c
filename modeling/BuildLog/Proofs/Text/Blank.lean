import BuildLog.Text.Blank
import BuildLog.Text.Digits
import Mathlib.Data.List.DropRight

/-! Blanks and trimmed texts. No digit is blank. Trimming takes nothing but blanks, and it leaves a
text that cannot be trimmed any further. -/
namespace BuildLog.Text

def blankPoints : List Nat :=
  List.range' 9 5 ++ List.range' 28 5 ++ [0x85, 0xA0, 0x1680] ++ List.range' 0x2000 11 ++
    [0x2028, 0x2029, 0x202F, 0x205F, 0x3000]

theorem isDigit_of_isBlank {c : Char} (blank : isBlank c = true) : isDigit c = false := by
  have listed : c.toNat ∈ blankPoints := by
    simp only [isBlank, Bool.or_eq_true, Bool.and_eq_true, decide_eq_true_eq, beq_iff_eq] at blank
    simp only [blankPoints, List.mem_append, List.mem_range'_1, List.mem_cons, List.not_mem_nil,
      or_false]
    omega
  have apart : ∀ n ∈ blankPoints, isDigit (Char.ofNat n) = false := by decide +kernel
  rw [← Char.ofNat_toNat c]
  exact apart _ listed

theorem isDecimal_of_isBlank {c : Char} (blank : isBlank c = true) : isDecimal c = false :=
  (Bool.or_eq_false_iff.mp (isDigit_of_isBlank blank)).1

theorem mem_trim {c : Char} {cs : List Char} (solid : isBlank c = false) (member : c ∈ cs) :
    c ∈ trim cs := by
  have kept (cs : List Char) (member : c ∈ cs) : c ∈ cs.dropWhile isBlank := by
    rw [← List.takeWhile_append_dropWhile (p := isBlank) (l := cs), List.mem_append] at member
    refine member.resolve_left fun blank => ?_
    rw [List.all_eq_true.mp List.all_takeWhile c blank] at solid
    contradiction
  unfold trim trimEnd trimStart
  exact List.mem_reverse.mpr (kept _ (List.mem_reverse.mpr (kept _ member)))

/-- A text that holds more than blanks is not trimmed to nothing. -/
theorem stripped_isEmpty {s : String} (solid : isBlankText s = false) :
    (stripped s).isEmpty = false := by
  obtain ⟨c, member, apart⟩ := List.all_eq_false.mp solid
  have kept : c ∈ trim s.toList := mem_trim (by simpa using apart) member
  simp [stripped, List.ne_nil_of_mem kept]

theorem trim_replicate {c : Char} (solid : isBlank c = false) (n : Nat) :
    trim (List.replicate n c) = List.replicate n c := by
  have kept : (List.replicate n c).dropWhile isBlank = List.replicate n c :=
    List.dropWhile_eq_self_iff.mpr fun _ => by simp [solid]
  rw [trim, trimStart, kept, trimEnd, List.reverse_replicate, kept, List.reverse_replicate]

theorem trimEnd_prefix (cs : List Char) : trimEnd cs <+: cs := List.rdropWhile_prefix isBlank cs

/-- What is left begins with no blank, also when its end is cut. -/
theorem trimStart_trim (cs : List Char) : trimStart (trim cs) = trim cs := by
  refine List.dropWhile_eq_self_iff.mpr fun filled => ?_
  have within := trimEnd_prefix (trimStart cs)
  have longer : 0 < (trimStart cs).length := filled.trans_le within.length_le
  have first : (trim cs)[0] = (trimStart cs)[0] := within.getElem filled
  rw [first]
  exact List.dropWhile_get_zero_not isBlank cs longer

theorem trim_trim (cs : List Char) : trim (trim cs) = trim cs := by
  rw [trim, trimStart_trim]
  exact List.rdropWhile_idempotent isBlank (trimStart cs)

theorem stripped_stripped (s : String) : stripped (stripped s) = stripped s := by
  simp only [stripped, String.toList_ofList, trim_trim]

end BuildLog.Text
