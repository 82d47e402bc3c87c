import BuildLog.Proofs.Payload.Section

/-! Documents behind a banner. A banner in which nothing opens a document does not hide the one
behind it, but it must not begin with a bracket either, as a log prefix in brackets does: then the
whole text passes for the document. -/
namespace BuildLog.Payload

open Text

variable {banner payload : List Char}

/-- The line feed behind a banner may follow a bracket, as the end of a text may. -/
theorem startsJson_banner_iff {i : Nat} (inside : i < banner.length) :
    StartsJson (banner ++ '\n' :: payload) i ↔ StartsJson banner i := by
  have here (j : Nat) (within : j < banner.length) :
      (banner ++ '\n' :: payload)[j]? = banner[j]? := List.getElem?_append_left within
  have line : StartsLine (banner ++ '\n' :: payload) i ↔ StartsLine banner i := by
    refine or_congr_right (exists_congr fun j => and_congr_right fun place => ?_)
    rw [here j (by omega)]
  have follower : (∀ d, (banner ++ '\n' :: payload)[i + 1]? = some d → mayFollow d = true) ↔
      ∀ d, banner[i + 1]? = some d → mayFollow d = true := by
    by_cases last : i + 1 = banner.length
    · have feed : (banner ++ '\n' :: payload)[i + 1]? = some '\n' := by simp [last]
      have nothing : banner[i + 1]? = none := by simp [last]
      have follows : mayFollow '\n' = true := by decide
      simp [feed, nothing, follows]
    · rw [here (i + 1) (by omega)]
  constructor
  · rintro ⟨starts, bracket, behind⟩
    exact ⟨line.mp starts, here i inside ▸ bracket, follower.mp behind⟩
  · rintro ⟨starts, bracket, behind⟩
    exact ⟨line.mpr starts, (here i inside).symm ▸ bracket, follower.mpr behind⟩

theorem startsJson_behind (opens : StartsJson payload 0) :
    StartsJson (banner ++ '\n' :: payload) (banner.length + 1) := by
  have there (j : Nat) : (banner ++ '\n' :: payload)[banner.length + 1 + j]? = payload[j]? := by
    rw [List.getElem?_append_right (by omega),
      show banner.length + 1 + j - banner.length = j + 1 by omega, List.getElem?_cons_succ]
  exact ⟨.inr ⟨banner.length, rfl, by simp⟩, there 0 ▸ opens.bracket, there 1 ▸ opens.follower⟩

/-- Behind a banner that opens nothing the document is the first. -/
theorem isLeast_behind (calm : ∀ i, ¬StartsJson banner i) (opens : StartsJson payload 0) :
    IsLeast {i | StartsJson (banner ++ '\n' :: payload) i} (banner.length + 1) := by
  refine ⟨startsJson_behind opens, fun i starts => ?_⟩
  by_contra earlier
  rcases Nat.lt_or_ge i banner.length with inside | outside
  · exact calm i ((startsJson_banner_iff inside).mp starts)
  · obtain rfl : i = banner.length := by omega
    obtain ⟨c, feed, bracket⟩ := starts.bracket
    obtain rfl : '\n' = c := by simpa using feed
    exact absurd bracket (by decide)

theorem beginsWithBracket_behind (opens : StartsJson payload 0) :
    BeginsWithBracket (banner ++ '\n' :: payload) ↔
      ¬∃ c, (trimStart banner).head? = some c ∧ isBracket c = false := by
  have feed : trimStart ('\n' :: payload) = trimStart payload := by
    rw [trimStart, List.dropWhile_cons_of_pos (by decide)]
    rfl
  unfold BeginsWithBracket
  rw [trimStart, List.dropWhile_append]
  cases front : banner.dropWhile isBlank with
  | nil =>
    have document : BeginsWithBracket payload := opens.beginsWithBracket
    rw [BeginsWithBracket, ← feed] at document
    simpa [trimStart, front] using document
  | cons c rest => simp [trimStart, front]

/-- The document behind a banner is found if and only if the banner holds more than blanks and
does not begin with a bracket. -/
theorem json_banner (calm : ∀ i, ¬StartsJson banner i) (opens : StartsJson payload 0) :
    json (banner ++ '\n' :: payload) = payload ↔
      ∃ c, (trimStart banner).head? = some c ∧ isBracket c = false := by
  have longer : banner ++ '\n' :: payload ≠ payload := by
    intro same
    have lengths := congrArg List.length same
    rw [List.length_append, List.length_cons] at lengths
    omega
  rcases json_isSection (banner ++ '\n' :: payload) with ⟨begins, whole⟩ | ⟨other, taken⟩
  · have hidden := (beginsWithBracket_behind opens).mp begins
    rw [whole]
    exact iff_of_false longer hidden
  · refine iff_of_true ?_ (not_not.mp (mt (beginsWithBracket_behind opens).mpr other))
    generalize json (banner ++ '\n' :: payload) = s at taken ⊢
    cases taken with
    | found first =>
      rw [first.unique (isLeast_behind calm opens), ← List.drop_drop, List.drop_left]
      rfl
    | missing none => exact absurd (startsJson_behind opens) (none _)

theorem not_startsJson_of_search {cs : List Char} (missed : jsonFrom? true cs = none) (i : Nat) :
    ¬StartsJson cs i := by
  rw [startsJson_iff]
  exact lineFrom?_eq_none rfl (jsonFrom?_eq true cs ▸ missed) i

/-- Brackets that are indented, and brackets around a word. -/
def noisyBanner : List Char := "npx eslint\n  [1] of 2\n[INFO] done".toList

theorem json_banner_noisy :
    (∀ i, ¬StartsJson noisyBanner i) ∧ StartsJson "[]".toList 0 ∧
      json (noisyBanner ++ '\n' :: "[]".toList) = "[]".toList := by
  have calm : ∀ i, ¬StartsJson noisyBanner i := not_startsJson_of_search (by decide)
  have opens : StartsJson "[]".toList 0 := startsJson_iff.mpr ⟨rfl, by decide⟩
  exact ⟨calm, opens, (json_banner calm opens).mpr ⟨'n', by decide⟩⟩

/-- A log prefix in brackets at the beginning hides the document. -/
theorem json_banner_prefixed :
    ¬∀ banner payload : List Char, (∀ i, ¬StartsJson banner i) → StartsJson payload 0 →
      json (banner ++ '\n' :: payload) = payload := by
  intro found
  have calm : ∀ i, ¬StartsJson "[INFO] done".toList i := not_startsJson_of_search (by decide)
  have opens : StartsJson "[1]".toList 0 := startsJson_iff.mpr ⟨rfl, by decide⟩
  have hidden : json ("[INFO] done".toList ++ '\n' :: "[1]".toList) ≠ "[1]".toList := by decide
  exact hidden (found _ _ calm opens)

end BuildLog.Payload
