import BuildLog.Proofs.CiJob.Provenance
import BuildLog.Proofs.Pattern.Spelling

/-! What makes a line of a job's log a header, the end of a group, a remark or output. Headers and
remarks are told by patterns, the end of a group by how it begins, and the three are tried in this
order; a line that is none of them is output. -/
namespace BuildLog.Format.CiJob

open Line (IsUnbroken)
open Pattern (CharClass Node)
open Text

def headerLine : Pattern := .ofNode ["cmd"] <| .seq [
  .anchor .textStart, .literal headerMark, .group 1 (.many1 .anyButLineFeed),
  .anchor .lastLineEnd]

def remarkLine : Pattern := .ofNode ["kind", "msg"] <| .seq [
  .anchor .textStart, .literal "##[", .group 1 (.literals ["error", "warning", "notice"]),
  .char ']', .group 2 (.many .anyButLineFeed), .anchor .lastLineEnd]

theorem headerLine_matches {text : String} (unbroken : IsUnbroken text.toList) :
    (headerLine.matchStart text).isSome = true ↔
      ∃ rest, rest ≠ [] ∧ text.toList = headerMark.toList ++ rest := by
  have unfed : '\n' ∉ text.toList := fun member => (unbroken _ member).2 rfl
  have shape : headerLine.root.Reaches text.toList.toArray (fun _ => True) 0 ↔
      (Node.literal headerMark).Reaches text.toList.toArray
        ((Node.cat (.group 1 (.run .greedy 1 none .anyButLineFeed))
          (.anchor .lastLineEnd)).Reaches text.toList.toArray fun _ => True) 0 :=
    and_iff_right rfl
  rw [Pattern.matchStart_isSome (by decide), shape,
    Node.reaches_iff_leads (Node.literal_isPlain _), Node.literal_leads, Nat.zero_add]
  constructor
  · rintro ⟨⟨rest, whole⟩, ends⟩
    have length := congrArg List.length whole
    rw [List.length_append] at length
    rw [Node.rest_reaches unfed 1 1 (by simp at length; omega)] at ends
    refine ⟨rest, ?_, whole.symm⟩
    rintro rfl
    simp at length
    omega
  · rintro ⟨rest, filled, whole⟩
    have length := congrArg List.length whole
    have some := List.length_pos_iff.mpr filled
    rw [List.length_append] at length
    refine ⟨⟨rest, whole.symm⟩, ?_⟩
    rw [Node.rest_reaches unfed 1 1 (by omega)]
    omega

theorem spells_mark (u : List Char) :
    (Node.cat (.cat (.literal "##[") (.group 1 (.literals ["error", "warning", "notice"])))
      (.char ']')).Spells u ↔
      ∃ kind : Remark, u = kind.mark.toList := by
  simp only [Node.Spells, Node.literals, Node.choice, List.map_cons, List.map_nil,
    Node.spells_literal_iff, Node.spells_char_iff]
  constructor
  · rintro ⟨_, _, rfl, ⟨_, _, rfl, rfl, rfl | rfl | rfl⟩, rfl⟩
    · exact ⟨.error, rfl⟩
    · exact ⟨.warning, rfl⟩
    · exact ⟨.notice, rfl⟩
  · rintro ⟨kind, rfl⟩
    cases kind with
    | error => exact ⟨_, _, rfl, ⟨_, _, rfl, rfl, .inl rfl⟩, rfl⟩
    | warning => exact ⟨_, _, rfl, ⟨_, _, rfl, rfl, .inr (.inl rfl)⟩, rfl⟩
    | notice => exact ⟨_, _, rfl, ⟨_, _, rfl, rfl, .inr (.inr rfl)⟩, rfl⟩

theorem remarkLine_matches {text : String} (unbroken : IsUnbroken text.toList) :
    (remarkLine.matchStart text).isSome = true ↔
      ∃ (kind : Remark) (rest : List Char), text.toList = kind.mark.toList ++ rest := by
  have unfed : '\n' ∉ text.toList := fun member => (unbroken _ member).2 rfl
  have shape : remarkLine.root.Reaches text.toList.toArray (fun _ => True) 0 ↔
      (Node.literal "##[").Reaches text.toList.toArray
        ((Node.group 1 (.literals ["error", "warning", "notice"])).Leads text.toList.toArray
          ((Node.char ']').Leads text.toList.toArray
            ((Node.cat (.group 2 (.run .greedy 0 none .anyButLineFeed))
              (.anchor .lastLineEnd)).Reaches text.toList.toArray fun _ => True))) 0 :=
    and_iff_right rfl
  rw [Pattern.matchStart_isSome (by decide), shape,
    Node.reaches_iff_leads (Node.literal_isPlain _), ← Pattern.cat_leads, ← Pattern.cat_leads]
  simp only [Node.Leads, spells_mark, Nat.zero_add, List.drop_zero]
  constructor
  · rintro ⟨_, ⟨kind, rfl⟩, ⟨rest, whole⟩, -⟩
    exact ⟨kind, rest, whole.symm⟩
  · rintro ⟨kind, rest, whole⟩
    have length := congrArg List.length whole
    rw [List.length_append] at length
    refine ⟨_, ⟨kind, rfl⟩, ⟨rest, whole.symm⟩, ?_⟩
    rw [Node.rest_reaches unfed 2 0 (by omega)]
    omega

theorem dropStart?_eq_some_iff {beginning cs rest : List Char} :
    dropStart? beginning cs = some rest ↔ cs = beginning ++ rest := by
  unfold dropStart?
  split
  next begins =>
    obtain ⟨behind, rfl⟩ := List.isPrefixOf_iff_prefix.mp begins
    simp
  next apart =>
    refine ⟨nofun, ?_⟩
    rintro rfl
    exact absurd (List.isPrefixOf_iff_prefix.mpr (List.prefix_append beginning rest)) apart

theorem command?_eq_some_iff {cs : List Char} {command : String} :
    command? cs = some command ↔
      ∃ rest, rest ≠ [] ∧ cs = headerMark.toList ++ rest ∧ command = String.ofList (trim rest) := by
  unfold command?
  split
  next missing =>
    refine ⟨nofun, ?_⟩
    rintro ⟨rest, -, whole, -⟩
    rw [dropStart?_eq_some_iff.mpr whole] at missing
    cases missing
  next empty =>
    refine ⟨nofun, ?_⟩
    rintro ⟨rest, filled, whole, -⟩
    rw [dropStart?_eq_some_iff.mpr whole] at empty
    exact absurd (Option.some.inj empty) filled
  next rest filled found =>
    have whole := dropStart?_eq_some_iff.mp found
    constructor
    · intro same
      exact ⟨rest, filled, whole, (Option.some.inj same).symm⟩
    · rintro ⟨other, -, same, rfl⟩
      rw [List.append_cancel_left (whole.symm.trans same)]

theorem remark?_eq_some {cs : List Char} {kind : Remark} {message : String}
    (found : remark? cs = some (kind, message)) :
    ∃ rest, cs = kind.mark.toList ++ rest ∧ message = String.ofList (trim rest) := by
  obtain ⟨_, -, found⟩ := List.exists_of_findSome?_eq_some found
  obtain ⟨rest, begun, same⟩ := Option.map_eq_some_iff.mp found
  cases same
  exact ⟨rest, dropStart?_eq_some_iff.mp begun, rfl⟩

theorem remark?_isSome (cs : List Char) :
    (remark? cs).isSome = true ↔
      ∃ (kind : Remark) (rest : List Char), cs = kind.mark.toList ++ rest := by
  have begun (kind : Remark) : (dropStart? kind.mark.toList cs).isSome = true ↔
      ∃ rest, cs = kind.mark.toList ++ rest := by
    simp only [Option.isSome_iff_exists, dropStart?_eq_some_iff]
  simp only [remark?, List.findSome?_isSome_iff, Option.isSome_map, begun]
  constructor
  · rintro ⟨kind, -, rest, whole⟩
    exact ⟨kind, rest, whole⟩
  · rintro ⟨kind, rest, whole⟩
    exact ⟨kind, by cases kind <;> decide, rest, whole⟩

/-- What the patterns, tried in their order, say of a line in each of the roles. -/
def Role.Fits (text : String) : Role → Prop
  | .header command => (headerLine.matchStart text).isSome = true ∧
      ∃ rest, text.toList = headerMark.toList ++ rest ∧ command = String.ofList (trim rest)
  | .groupEnd => headerLine.matchStart text = none ∧ startsWith text groupEndMark = true
  | .remark kind message => headerLine.matchStart text = none ∧
      startsWith text groupEndMark = false ∧ (remarkLine.matchStart text).isSome = true ∧
      ∃ rest, text.toList = kind.mark.toList ++ rest ∧ message = String.ofList (trim rest)
  | .output => headerLine.matchStart text = none ∧ startsWith text groupEndMark = false ∧
      remarkLine.matchStart text = none

theorem Role.of_fits {text : String} (unbroken : IsUnbroken text.toList) :
    (Role.of text).Fits text := by
  have header := headerLine_matches unbroken
  have remark := remarkLine_matches unbroken
  unfold Role.of
  dsimp only
  cases begun : command? text.toList with
  | some command =>
    obtain ⟨rest, filled, whole, same⟩ := command?_eq_some_iff.mp begun
    exact ⟨header.mpr ⟨rest, filled, whole⟩, rest, whole, same⟩
  | none =>
    have none : headerLine.matchStart text = none := by
      rw [← Option.not_isSome_iff_eq_none, header]
      rintro ⟨rest, filled, whole⟩
      rw [command?_eq_some_iff.mpr ⟨rest, filled, whole, rfl⟩] at begun
      cases begun
    dsimp only
    split
    next ends => exact ⟨none, ends⟩
    next goesOn =>
      have goesOn : startsWith text groupEndMark = false := Bool.eq_false_iff.mpr goesOn
      rw [← remark?_isSome] at remark
      split
      next kind message found =>
        exact ⟨none, goesOn, remark.mpr (by rw [found]; rfl), remark?_eq_some found⟩
      next missing =>
        refine ⟨none, goesOn, ?_⟩
        rw [← Option.not_isSome_iff_eq_none, remark, missing]
        exact Bool.false_ne_true

theorem entries_fit {limit : Int} {content : String} {e : Entry}
    (member : e ∈ entries limit content) : e.role.Fits e.text := by
  have unbroken := entries_isUnbroken member
  obtain ⟨line, -, rfl⟩ := List.mem_map.mp member
  exact Role.of_fits unbroken

end BuildLog.Format.CiJob
