import BuildLog.Proofs.Diagnostic.Location

/-! The marker of a severity. It is sought in the whole line, whatever was read as a location, and
may stand in front of the numbers: then it is a part of the name of the file, or it ends with the
colon behind that name. -/
namespace BuildLog

open Text

namespace Diagnostic

/-- The first place at which the marker of a severity begins. It is told by the text from there
on: no text that the line ends with and that begins with a marker is longer. -/
structure IsFirstMarker (line : List Char) (severity : String) (after : List Char) : Prop where
  known : severity ∈ severities
  stands : marker severity ++ after <:+ line
  first : ∀ t ∈ severities, ∀ u, marker t <+: u → u <:+ line →
    u.length ≤ (marker severity ++ after).length

/-- The markers differ, and none begins with another. -/
theorem marker_unique {s t : String} (known : s ∈ severities) (other : t ∈ severities)
    {u : List Char} (stands : marker s <+: u) (begins : marker t <+: u) : s = t := by
  have apart : ∀ s ∈ severities, ∀ t ∈ severities, marker s <+: marker t → s = t := by decide
  rcases List.prefix_or_prefix_of_prefix stands begins with within | within
  · exact apart s known t other within
  · exact (apart t other s known within).symm

theorem find?_marker_eq_some_iff {u : List Char} {s : String} :
    (severities.find? fun t => (marker t).isPrefixOf u) = some s ↔
      s ∈ severities ∧ marker s <+: u := by
  constructor
  · intro found
    exact ⟨List.mem_of_find?_eq_some found, List.isPrefixOf_iff_prefix.mp
      (List.find?_some (p := fun t => (marker t).isPrefixOf u) found)⟩
  · rintro ⟨known, stands⟩
    cases found : severities.find? fun t => (marker t).isPrefixOf u with
    | none =>
      have missed := List.find?_eq_none.mp found s known
      exact absurd (List.isPrefixOf_iff_prefix.mpr stands) missed
    | some t =>
      have begins : marker t <+: u := List.isPrefixOf_iff_prefix.mp
        (List.find?_some (p := fun t => (marker t).isPrefixOf u) found)
      rw [marker_unique known (List.mem_of_find?_eq_some found) stands begins]

theorem firstMarker?_eq_some_iff {line : List Char} {severity : String} {after : List Char} :
    firstMarker? line = some (severity, after) ↔ IsFirstMarker line severity after := by
  induction line with
  | nil =>
    refine ⟨nofun, fun marked => ?_⟩
    have empty := List.suffix_nil.mp marked.stands
    simp [marker] at empty
  | cons c rest ih =>
    cases found : severities.find? fun t => (marker t).isPrefixOf (c :: rest) with
    | some s =>
      obtain ⟨known, behind, whole⟩ := find?_marker_eq_some_iff.mp found
      rw [firstMarker?, found]
      simp only [← whole, List.drop_left, Option.some.injEq, Prod.mk.injEq]
      constructor
      · rintro ⟨rfl, rfl⟩
        exact ⟨known, List.suffix_rfl, fun t _ u _ ends => ends.length_le⟩
      · intro marked
        have same : marker severity ++ after = marker s ++ behind :=
          marked.stands.eq_of_length_le
            (marked.first s known _ (List.prefix_append _ _) List.suffix_rfl)
        have begins : marker s <+: marker severity ++ after := by
          rw [same]
          exact List.prefix_append _ _
        obtain rfl := marker_unique marked.known known (List.prefix_append _ _) begins
        exact ⟨rfl, (List.append_cancel_left same).symm⟩
    | none =>
      have missed : ∀ t ∈ severities, ¬marker t <+: c :: rest := fun t known begins => by
        rw [find?_marker_eq_some_iff.mpr ⟨known, begins⟩] at found
        cases found
      rw [firstMarker?, found, ih]
      constructor
      · rintro ⟨known, stands, first⟩
        refine ⟨known, stands.trans (List.suffix_cons c rest), fun t other u begins ends => ?_⟩
        rcases List.suffix_cons_iff.mp ends with rfl | inside
        · exact absurd begins (missed t other)
        · exact first t other u begins inside
      · rintro ⟨known, stands, first⟩
        refine ⟨known, ?_, fun t other u begins ends =>
          first t other u begins (ends.trans (List.suffix_cons c rest))⟩
        rcases List.suffix_cons_iff.mp stands with whole | inside
        · exact absurd (whole ▸ List.prefix_append _ _) (missed severity known)
        · exact inside

/-- A marker stands in the name of a file, or it ends with the colon behind the name. -/
def HoldsMarker (file : List Char) : Prop := ∃ t ∈ severities, marker t <:+: file ++ [':']

instance (file : List Char) : Decidable (HoldsMarker file) :=
  inferInstanceAs (Decidable (∃ t ∈ severities, marker t <:+: file ++ [':']))

/-- A marker that begins before a colon ends there if not earlier, as it has no other colon. -/
theorem prefix_to_colon {body : List Char} (apart : ':' ∉ body) {w v : List Char}
    (begins : body ++ [':'] <+: w ++ ':' :: v) : body ++ [':'] <+: w ++ [':'] := by
  induction body generalizing w with
  | nil =>
    cases w with
    | nil => exact List.prefix_rfl
    | cons c w =>
      obtain ⟨rfl, -⟩ := List.cons_prefix_cons.mp begins
      exact List.cons_prefix_cons.mpr ⟨rfl, List.nil_prefix⟩
  | cons b body ih =>
    cases w with
    | nil => exact absurd (List.cons_prefix_cons.mp begins).1.symm (List.ne_of_not_mem_cons apart)
    | cons c w =>
      obtain ⟨rfl, inside⟩ := List.cons_prefix_cons.mp begins
      exact List.cons_prefix_cons.mpr ⟨rfl, ih (List.not_mem_of_not_mem_cons apart) inside⟩

theorem marker_behind_colon {t : String} (known : t ∈ severities) {w v after : List Char}
    (ends : marker t ++ after <:+ w ++ ':' :: v) :
    marker t ++ after <:+ v ∨ marker t <:+: w ++ [':'] := by
  have apart : ∀ t ∈ severities, ':' ∉ ' ' :: t.toList := by decide
  induction w with
  | nil =>
    rcases List.suffix_cons_iff.mp ends with whole | inside
    · exact absurd (List.cons.inj whole).1 (by decide)
    · exact .inl inside
  | cons c w ih =>
    rcases List.suffix_cons_iff.mp ends with whole | inside
    · have begins : marker t <+: (c :: w) ++ ':' :: v := ⟨after, whole⟩
      exact .inr (prefix_to_colon (apart t known) begins).isInfix
    · exact (ih inside).imp_right fun earlier => earlier.trans (List.suffix_cons c _).isInfix

/-- A marker begins with a blank, so it does not begin where there are none. -/
theorem marker_behind_solid {t : String} {solid behind after : List Char} (apart : ' ' ∉ solid)
    (ends : marker t ++ after <:+ solid ++ behind) : marker t ++ after <:+ behind := by
  induction solid with
  | nil => exact ends
  | cons c solid ih =>
    rcases List.suffix_cons_iff.mp ends with whole | inside
    · exact absurd (List.cons.inj whole).1 (List.ne_of_not_mem_cons apart)
    · exact ih (List.not_mem_of_not_mem_cons apart) inside

/-- A marker stands behind the numbers of a location or in front of them. -/
theorem marker_cases {t : String} (known : t ∈ severities) {file numbers behind after : List Char}
    {n c : Int} (place : Location.IsPlace Decimal.IsReadFrom numbers n c)
    (ends : marker t ++ after <:+ file ++ (numbers ++ behind)) :
    marker t ++ after <:+ behind ∨ HoldsMarker file := by
  obtain ⟨rest, rfl, solid⟩ := place.exists_cons
  rcases marker_behind_colon known ends with later | earlier
  · exact .inl (marker_behind_solid solid later)
  · exact .inr ⟨t, known, earlier⟩

theorem read?_eq_some_iff {line : String} {d : Diagnostic} :
    read? line = .ok (some d) ↔ Location.read? line.toList = .ok (some d.location) ∧
      ∃ after, IsFirstMarker line.toList d.severity after ∧
        d.message = String.ofList (trimStart after) := by
  unfold read?
  cases located : Location.read? line.toList with
  | error e => simp [bind, Except.bind]
  | ok l? =>
    cases l? with
    | none => simp [bind, Except.bind, pure, Except.pure]
    | some l =>
      simp only [bind, Except.bind, pure, Except.pure, Except.ok.injEq, Option.map_eq_some_iff,
        Option.some.injEq, Prod.exists, firstMarker?_eq_some_iff]
      constructor
      · rintro ⟨severity, after, marked, rfl⟩
        exact ⟨rfl, after, marked, rfl⟩
      · rintro ⟨rfl, after, marked, message⟩
        exact ⟨d.severity, after, marked, by rw [← message]⟩

end Diagnostic

end BuildLog
