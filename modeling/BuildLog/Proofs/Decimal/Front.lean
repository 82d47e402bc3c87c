import BuildLog.Proofs.Decimal.Numeral

/-! The integer at the beginning of a text: blanks, perhaps a sign, and as many decimal digits as
there are. It is read exactly if it has few enough digits and is within its bounds. -/
namespace BuildLog.Decimal

open Text

inductive IsSign : List Char → Bool → Prop
  | none : IsSign [] false
  | plus : IsSign ['+'] false
  | minus : IsSign ['-'] true

/-- The text begins with an integer of these digits. -/
structure IsFront (cs : List Char) (negative : Bool) (digits : List Char) : Prop where
  spelled : ∃ blanks sign rest, cs = blanks ++ (sign ++ (digits ++ rest)) ∧
    (∀ c ∈ blanks, isBlank c = true) ∧ IsSign sign negative ∧
    ∀ c, rest.head? = some c → isDecimal c = false
  filled : digits ≠ []
  decimal : ∀ c ∈ digits, isDecimal c = true

def placeValue (c : Char) : Nat := (decimal? c).getD 0

def valueOf (negative : Bool) (digits : List Char) : Int :=
  withSign negative (Nat.ofDigits 10 (digits.reverse.map placeValue))

theorem natOf_eq_ofDigits (digits : List Char) :
    natOf digits = Nat.ofDigits 10 (digits.reverse.map placeValue) := by
  rw [natOf, Nat.ofDigits_eq_foldr, List.foldr_map, List.foldr_reverse]
  exact List.foldl_ext _ _ 0 fun n c _ => Nat.add_comm _ _

theorem splitSign_isSign (cs : List Char) :
    ∃ sign, cs = sign ++ (splitSign cs).2 ∧ IsSign sign (splitSign cs).1 := by
  unfold splitSign
  split
  · exact ⟨['-'], rfl, .minus⟩
  · exact ⟨['+'], rfl, .plus⟩
  · exact ⟨[], rfl, .none⟩

/-- No decimal digit is a blank or a sign, so the sign in front of the digits is told. -/
theorem splitSign_trimStart {sign : List Char} {negative : Bool} (signed : IsSign sign negative)
    {d : Char} (decimal : isDecimal d = true) (rest : List Char) :
    splitSign (trimStart (sign ++ d :: rest)) = (negative, d :: rest) := by
  have solid : isBlank d = false := by
    by_contra blank
    rw [isDecimal_of_isBlank (by simpa using blank)] at decimal
    contradiction
  have minus : d ≠ '-' := by
    rintro rfl
    exact absurd decimal (by decide +kernel)
  have plus : d ≠ '+' := by
    rintro rfl
    exact absurd decimal (by decide +kernel)
  cases signed with
  | plus => rfl
  | minus => rfl
  | none =>
    have kept : trimStart (d :: rest) = d :: rest := by simp [trimStart, solid]
    rw [List.nil_append, kept]
    unfold splitSign
    split
    next same => exact absurd (List.cons.inj same).1 minus
    next same => exact absurd (List.cons.inj same).1 plus
    next => rfl

theorem isFront_iff {cs digits : List Char} {negative : Bool} :
    IsFront cs negative digits ↔
      digits ≠ [] ∧ (splitSign (trimStart cs)).1 = negative ∧ leadingDigits cs = digits := by
  constructor
  · rintro ⟨⟨blanks, sign, rest, rfl, blank, signed, ended⟩, filled, decimal⟩
    obtain ⟨d, more, rfl⟩ := List.exists_cons_of_ne_nil filled
    have trimmed : trimStart (blanks ++ (sign ++ (d :: more ++ rest))) =
        trimStart (sign ++ d :: (more ++ rest)) := by
      rw [trimStart, List.dropWhile_append_of_pos blank]
      rfl
    have split := splitSign_trimStart signed (decimal d List.mem_cons_self) (more ++ rest)
    refine ⟨filled, ?_, ?_⟩
    · rw [trimmed, split]
    · have stopped : rest.takeWhile isDecimal = [] := by
        cases rest with
        | nil => rfl
        | cons c rest => exact List.takeWhile_cons_of_neg (by simp [ended c rfl])
      rw [leadingDigits, trimmed, split, ← List.cons_append,
        List.takeWhile_append_of_pos decimal, stopped, List.append_nil]
  · rintro ⟨filled, rfl, rfl⟩
    obtain ⟨sign, unsigned, signed⟩ := splitSign_isSign (trimStart cs)
    refine ⟨⟨cs.takeWhile isBlank, sign, (splitSign (trimStart cs)).2.dropWhile isDecimal, ?_,
      fun c => List.mem_takeWhile_imp, signed, fun c first => ?_⟩, filled,
      fun c => List.mem_takeWhile_imp⟩
    · rw [leadingDigits, List.takeWhile_append_dropWhile, ← unsigned]
      exact List.takeWhile_append_dropWhile.symm
    · have head := List.head?_dropWhile_not isDecimal (splitSign (trimStart cs)).2
      rw [first] at head
      simpa using head

theorem isOverlong_iff {cs : List Char} :
    IsOverlong cs ↔ ∃ negative digits, IsFront cs negative digits ∧ digitLimit < digits.length := by
  constructor
  · intro long
    have filled : leadingDigits cs ≠ [] := by
      rintro none
      rw [IsOverlong, none] at long
      exact Nat.not_lt_zero _ long
    exact ⟨_, _, isFront_iff.mpr ⟨filled, rfl, rfl⟩, long⟩
  · rintro ⟨negative, digits, front, long⟩
    obtain ⟨-, -, rfl⟩ := isFront_iff.mp front
    exact long

theorem fits_iff {bits : Nat} {n : Int} :
    fits bits n = true ↔ -2 ^ (bits - 1) ≤ n ∧ n < 2 ^ (bits - 1) := by
  have beyond : ((Nat.pow 2 (bits - 1) : Nat) : Int) = 2 ^ (bits - 1) := by simp
  rw [fits, beyond, Bool.and_eq_true, decide_eq_true_eq, decide_eq_true_eq, and_comm]

/-- The integer at the beginning of the text is within the bounds, and its digits are not too
many. -/
def IsIntegerOf (bits : Nat) (cs : List Char) (n : Int) : Prop :=
  ∃ negative digits, IsFront cs negative digits ∧ digits.length ≤ digitLimit ∧
    n = valueOf negative digits ∧ -2 ^ (bits - 1) ≤ n ∧ n < 2 ^ (bits - 1)

theorem boundedPrefix_eq_some_iff {bits : Nat} {cs : List Char} {n : Int} :
    boundedPrefix bits cs = .ok (some n) ↔ IsIntegerOf bits cs n := by
  have read : intPrefix cs = if (leadingDigits cs).isEmpty then .ok none
      else (readDigits (leadingDigits cs)).map fun n =>
        some (withSign (splitSign (trimStart cs)).1 n) := rfl
  rw [boundedPrefix, read]
  constructor
  · intro known
    split at known
    · cases known
    next filled =>
      unfold readDigits at known
      split at known
      · cases known
      next few =>
        simp only [Except.map, Except.ok.injEq, Option.filter_eq_some_iff,
          Option.some.injEq] at known
        obtain ⟨rfl, within⟩ := known
        rw [natOf_eq_ofDigits] at within ⊢
        exact ⟨_, _, isFront_iff.mpr ⟨by simpa using filled, rfl, rfl⟩, Nat.not_lt.mp few, rfl,
          fits_iff.mp within⟩
  · rintro ⟨negative, digits, front, few, rfl, within⟩
    obtain ⟨filled, rfl, rfl⟩ := isFront_iff.mp front
    rw [if_neg (by simpa using filled), readDigits, if_neg (Nat.not_lt.mpr few)]
    simp only [Except.map, Except.ok.injEq, Option.filter_eq_some_iff, Option.some.injEq,
      natOf_eq_ofDigits]
    exact ⟨rfl, fits_iff.mpr within⟩

end BuildLog.Decimal
