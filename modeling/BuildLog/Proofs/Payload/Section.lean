import BuildLog.Payload
import BuildLog.Proofs.Format.Ending
import Mathlib.Order.Bounds.Basic

/-! Where the document in a log begins. JSON and elements are looked for at the beginnings of
lines, an XML declaration anywhere, and the first place counts. What was taken once is taken
whole when it is looked at again. -/
namespace BuildLog

namespace Text

theorem find?_eq_none {needle cs : List Char} (missed : find? needle cs = none) (i : Nat) :
    ¬needle <+: cs.drop i := by
  induction cs generalizing i with
  | nil => simpa [find?] using missed
  | cons c rest ih =>
    rw [find?] at missed
    split at missed
    · cases missed
    next apart =>
      cases i with
      | zero => exact fun begins => apart (List.isPrefixOf_iff_prefix.mpr begins)
      | succ j => exact ih (Option.map_eq_none_iff.mp missed) j

theorem find?_eq_some {needle cs : List Char} {i : Nat} (found : find? needle cs = some i) :
    IsLeast {j | needle <+: cs.drop j} i := by
  induction cs generalizing i with
  | nil =>
    rw [find?] at found
    split at found
    next empty =>
      cases found
      rw [List.isEmpty_iff.mp empty]
      exact ⟨List.nil_prefix, fun _ _ => Nat.zero_le _⟩
    · cases found
  | cons c rest ih =>
    rw [find?] at found
    split at found
    next begins =>
      cases found
      exact ⟨List.isPrefixOf_iff_prefix.mp begins, fun _ _ => Nat.zero_le _⟩
    next apart =>
      obtain ⟨j, later, rfl⟩ := Option.map_eq_some_iff.mp found
      obtain ⟨begins, first⟩ := ih later
      refine ⟨begins, fun k other => ?_⟩
      cases k with
      | zero => exact absurd (List.isPrefixOf_iff_prefix.mpr other) apart
      | succ k => exact Nat.succ_le_succ (first other)

end Text

open Text

namespace Payload

def StartsLine (cs : List Char) (i : Nat) : Prop := i = 0 ∨ ∃ j, i = j + 1 ∧ cs[j]? = some '\n'

/-- A line begins with a bracket, which ends the text or has a character behind it that may follow
the first bracket of a document. -/
structure StartsJson (cs : List Char) (i : Nat) : Prop where
  line : StartsLine cs i
  bracket : ∃ c, cs[i]? = some c ∧ isBracket c = true
  follower : ∀ d, cs[i + 1]? = some d → mayFollow d = true

structure StartsElement (cs : List Char) (i : Nat) : Prop where
  line : StartsLine cs i
  angle : cs[i]? = some '<'
  letter : ∃ d, cs[i + 1]? = some d ∧ d.isAlpha = true

def StartsDeclaration (cs : List Char) (i : Nat) : Prop := declaration <+: cs.drop i

def BeginsWithBracket (cs : List Char) : Prop :=
  ∃ c, (trimStart cs).head? = some c ∧ isBracket c = true

/-- The text from the first such place on, or all of it if there is none. -/
inductive IsTaken (starts : Nat → Prop) (cs : List Char) : List Char → Prop
  | found {i : Nat} (first : IsLeast {j | starts j} i) : IsTaken starts cs (cs.drop i)
  | missing (none : ∀ i, ¬starts i) : IsTaken starts cs cs

/-- A text that begins with a bracket, else the text from the first line on that begins with a
document, else all of it. -/
def IsJsonSection (cs s : List Char) : Prop :=
  (BeginsWithBracket cs ∧ s = cs) ∨ (¬BeginsWithBracket cs ∧ IsTaken (StartsJson cs) cs s)

/-- The text from the first declaration on, else from the first line on that begins with an
element, else all of it. -/
def IsXmlSection (cs s : List Char) : Prop :=
  (∃ i, IsLeast {j | StartsDeclaration cs j} i ∧ s = cs.drop i) ∨
    ((∀ i, ¬StartsDeclaration cs i) ∧ IsTaken (StartsElement cs) cs s)

/-! Both searches go through a text line by line and differ in what they look for. -/

def lineFrom? (opens : List Char → Bool) (atLineStart : Bool) : List Char → Option (List Char)
  | [] => none
  | c :: rest =>
    if atLineStart && opens (c :: rest) then some (c :: rest)
    else lineFrom? opens (c == '\n') rest

theorem jsonFrom?_eq (atLineStart : Bool) (cs : List Char) :
    jsonFrom? atLineStart cs = lineFrom? opensJson atLineStart cs := by
  induction cs generalizing atLineStart with
  | nil => rfl
  | cons c rest ih => rw [jsonFrom?, lineFrom?, ih]

theorem elementFrom?_eq (atLineStart : Bool) (cs : List Char) :
    elementFrom? atLineStart cs = lineFrom? opensElement atLineStart cs := by
  induction cs generalizing atLineStart with
  | nil => rfl
  | cons c rest ih => rw [elementFrom?, lineFrom?, ih]

/-- What is looked for stands at the beginning of a line. The first line of a piece of a text
begins there only if `atLineStart` says so. -/
def OpensAt (opens : List Char → Bool) (atLineStart : Bool) (cs : List Char) : Nat → Prop
  | 0 => atLineStart = true ∧ opens cs = true
  | j + 1 => cs[j]? = some '\n' ∧ opens (cs.drop (j + 1)) = true

theorem opensAt_cons {opens : List Char → Bool} {atLineStart : Bool} {c : Char}
    {rest : List Char} {j : Nat} :
    OpensAt opens atLineStart (c :: rest) (j + 1) ↔ OpensAt opens (c == '\n') rest j := by
  cases j with
  | zero => simp [OpensAt]
  | succ j => simp [OpensAt]

section

variable {opens : List Char → Bool} (nothing : opens [] = false)
include nothing

theorem lineFrom?_eq_none {atLineStart : Bool} {cs : List Char}
    (missed : lineFrom? opens atLineStart cs = none) (i : Nat) :
    ¬OpensAt opens atLineStart cs i := by
  induction cs generalizing atLineStart i with
  | nil => cases i <;> simp [OpensAt, nothing]
  | cons c rest ih =>
    rw [lineFrom?] at missed
    split at missed
    · cases missed
    next closed =>
      cases i with
      | zero => simpa [OpensAt] using closed
      | succ j =>
        rw [opensAt_cons]
        exact ih missed j

omit nothing in
theorem lineFrom?_eq_some {atLineStart : Bool} {cs s : List Char}
    (found : lineFrom? opens atLineStart cs = some s) :
    ∃ i, IsLeast {j | OpensAt opens atLineStart cs j} i ∧ s = cs.drop i := by
  induction cs generalizing atLineStart with
  | nil => cases found
  | cons c rest ih =>
    rw [lineFrom?] at found
    split at found
    next opened =>
      cases found
      exact ⟨0, ⟨Bool.and_eq_true_iff.mp opened, fun _ _ => Nat.zero_le _⟩, rfl⟩
    next closed =>
      obtain ⟨i, ⟨opened, first⟩, rfl⟩ := ih found
      have here : OpensAt opens atLineStart (c :: rest) (i + 1) := opensAt_cons.mpr opened
      refine ⟨i + 1, ⟨here, fun j later => ?_⟩, rfl⟩
      cases j with
      | zero => exact absurd (Bool.and_eq_true_iff.mpr later) closed
      | succ j =>
        have there : OpensAt opens atLineStart (c :: rest) (j + 1) := later
        exact Nat.succ_le_succ (first (opensAt_cons.mp there))

theorem lineFrom?_isTaken (cs : List Char) :
    IsTaken (OpensAt opens true cs) cs ((lineFrom? opens true cs).getD cs) := by
  cases search : lineFrom? opens true cs with
  | none => exact .missing (lineFrom?_eq_none nothing search)
  | some s =>
    obtain ⟨i, first, rfl⟩ := lineFrom?_eq_some search
    exact .found first

end

theorem opensAt_iff {opens : List Char → Bool} {cs : List Char} {i : Nat} :
    OpensAt opens true cs i ↔ StartsLine cs i ∧ opens (cs.drop i) = true := by
  cases i with
  | zero => simp [OpensAt, StartsLine]
  | succ j => simp [OpensAt, StartsLine]

theorem opensJson_iff {cs : List Char} :
    opensJson cs = true ↔
      (∃ c, cs[0]? = some c ∧ isBracket c = true) ∧ ∀ d, cs[1]? = some d → mayFollow d = true := by
  unfold opensJson
  split <;> simp

theorem opensElement_iff {cs : List Char} :
    opensElement cs = true ↔ cs[0]? = some '<' ∧ ∃ d, cs[1]? = some d ∧ d.isAlpha = true := by
  unfold opensElement
  split
  · simp
  next other =>
    refine ⟨nofun, ?_⟩
    rintro ⟨angle, d, behind, -⟩
    obtain ⟨rest, rfl⟩ : ∃ rest, cs = '<' :: d :: rest := by
      obtain - | ⟨c, - | ⟨e, rest⟩⟩ := cs <;> simp_all
    exact absurd rfl (other d rest)

theorem startsJson_iff {cs : List Char} {i : Nat} :
    StartsJson cs i ↔ OpensAt opensJson true cs i := by
  rw [opensAt_iff, opensJson_iff, List.getElem?_drop, List.getElem?_drop]
  exact ⟨fun ⟨line, bracket, follower⟩ => ⟨line, bracket, follower⟩,
    fun ⟨line, bracket, follower⟩ => ⟨line, bracket, follower⟩⟩

theorem startsElement_iff {cs : List Char} {i : Nat} :
    StartsElement cs i ↔ OpensAt opensElement true cs i := by
  rw [opensAt_iff, opensElement_iff, List.getElem?_drop, List.getElem?_drop]
  exact ⟨fun ⟨line, angle, letter⟩ => ⟨line, angle, letter⟩,
    fun ⟨line, angle, letter⟩ => ⟨line, angle, letter⟩⟩

theorem IsTaken.congr {starts others : Nat → Prop} (same : ∀ i, starts i ↔ others i)
    {cs s : List Char} (taken : IsTaken starts cs s) : IsTaken others cs s := by
  obtain rfl : starts = others := funext fun i => propext (same i)
  exact taken

theorem IsTaken.suffix {starts : Nat → Prop} {cs s : List Char} (taken : IsTaken starts cs s) :
    s <:+ cs := by
  cases taken with
  | found first => exact List.drop_suffix _ _
  | missing none => exact List.suffix_rfl

theorem beginsWithBracket_iff {cs : List Char} :
    ((trimStart cs).head?.map isBracket).getD false = true ↔ BeginsWithBracket cs := by
  unfold BeginsWithBracket
  cases (trimStart cs).head? <;> simp

theorem json_of_bracket {cs : List Char} (begins : BeginsWithBracket cs) : json cs = cs := by
  rw [json, if_pos (beginsWithBracket_iff.mpr begins)]

theorem json_isSection (cs : List Char) : IsJsonSection cs (json cs) := by
  by_cases begins : BeginsWithBracket cs
  · exact .inl ⟨begins, json_of_bracket begins⟩
  · refine .inr ⟨begins, ?_⟩
    rw [json, if_neg (mt beginsWithBracket_iff.mp begins), jsonFrom?_eq]
    exact (lineFrom?_isTaken rfl cs).congr fun i => startsJson_iff.symm

theorem xml_isSection (cs : List Char) : IsXmlSection cs (xml cs) := by
  unfold xml
  cases search : find? declaration cs with
  | some i => exact .inl ⟨i, find?_eq_some search, rfl⟩
  | none =>
    refine .inr ⟨find?_eq_none search, ?_⟩
    rw [elementFrom?_eq]
    exact (lineFrom?_isTaken rfl cs).congr fun i => startsElement_iff.symm

theorem isBlank_of_isBracket {c : Char} (bracket : isBracket c = true) : isBlank c = false := by
  rcases Bool.or_eq_true_iff.mp bracket with same | same
  · rw [beq_iff_eq.mp same]
    decide
  · rw [beq_iff_eq.mp same]
    decide

theorem StartsJson.beginsWithBracket {cs : List Char} {i : Nat} (starts : StartsJson cs i) :
    BeginsWithBracket (cs.drop i) := by
  obtain ⟨c, here, bracket⟩ := starts.bracket
  obtain ⟨rest, text⟩ : ∃ rest, cs.drop i = c :: rest := by
    rw [← List.head?_drop, List.head?_eq_some_iff] at here
    exact here
  refine ⟨c, ?_, bracket⟩
  simp [text, trimStart, isBlank_of_isBracket bracket]

/-- What was taken begins with a bracket, or it is the whole text. -/
theorem json_json (cs : List Char) : json (json cs) = json cs := by
  rcases json_isSection cs with ⟨-, whole⟩ | ⟨-, taken⟩
  · rw [whole, whole]
  generalize same : json cs = s at taken
  cases taken with
  | found first => exact json_of_bracket first.1.beginsWithBracket
  | missing none => exact same

/-- A text in which nothing is looked for any further than its beginning is taken whole. -/
theorem IsXmlSection.of_front {cs s : List Char} (taken : IsXmlSection cs s)
    (front : StartsDeclaration cs 0 ∨ StartsElement cs 0 ∧ ∀ i, ¬StartsDeclaration cs i) :
    s = cs := by
  have start {starts : Nat → Prop} {i : Nat} (first : IsLeast {j | starts j} i)
      (here : starts 0) : cs.drop i = cs := by
    obtain rfl : i = 0 := Nat.le_zero.mp (first.2 here)
    exact List.drop_zero
  rcases taken with ⟨i, first, rfl⟩ | ⟨without, taken⟩
  · rcases front with here | ⟨-, without⟩
    · exact start first here
    · exact absurd first.1 (without i)
  · rcases front with here | ⟨here, -⟩
    · exact absurd here (without 0)
    · cases taken with
      | found first => exact start first here
      | missing none => rfl

/-- What was taken begins with the declaration or with an element, or it is the whole text. -/
theorem xml_xml (cs : List Char) : xml (xml cs) = xml cs := by
  rcases xml_isSection cs with ⟨i, first, whole⟩ | ⟨without, taken⟩
  · rw [whole]
    exact (xml_isSection _).of_front (.inl first.1)
  generalize same : xml cs = s at taken
  cases taken with
  | @found i first =>
    refine (xml_isSection _).of_front (.inr ⟨⟨.inl rfl, ?_, ?_⟩, fun j here => ?_⟩)
    · simpa using first.1.angle
    · simpa using first.1.letter
    · rw [StartsDeclaration, List.drop_drop] at here
      exact without (i + j) here
  | missing none => exact same

theorem json_suffix (cs : List Char) : json cs <:+ cs := by
  rcases json_isSection cs with ⟨-, whole⟩ | ⟨-, taken⟩
  · simp only [whole, List.suffix_rfl]
  · exact taken.suffix

theorem xml_suffix (cs : List Char) : xml cs <:+ cs := by
  rcases xml_isSection cs with ⟨i, -, whole⟩ | ⟨-, taken⟩
  · rw [whole]
    exact List.drop_suffix i cs
  · exact taken.suffix

/-- What is taken of normalized lines is normalized. -/
theorem normalizeChars_of_suffix {cs s : List Char} (within : s <:+ Line.normalizeChars cs) :
    Line.normalizeChars s = s :=
  Line.normalizeChars_eq_self fun member =>
    Line.return_not_mem_normalizeChars cs (within.subset member)

end Payload

theorem Family.payload_payload (family : Family) (content : String) :
    family.payload (family.payload content) = family.payload content := by
  cases family with
  | text => rfl
  | json =>
    simp only [payload, String.toList_ofList]
    rw [Payload.normalizeChars_of_suffix (Payload.json_suffix _), Payload.json_json]
  | xml =>
    simp only [payload, String.toList_ofList]
    rw [Payload.normalizeChars_of_suffix (Payload.xml_suffix _), Payload.xml_xml]

/-- The first section of a log is taken. Taking it again changes nothing, and neither does the
spelling of the terminators. -/
theorem Payload.sections_stable (content : String) :
    IsJsonSection content.toList (json content.toList) ∧
      IsXmlSection content.toList (xml content.toList) ∧
      (∀ family : Family, family.payload (family.payload content) = family.payload content) ∧
      Family.json.payload (Line.normalize content) = Family.json.payload content ∧
      Family.xml.payload (Line.normalize content) = Family.xml.payload content := by
  refine ⟨json_isSection _, xml_isSection _, fun family => family.payload_payload content, ?_, ?_⟩
  · exact Family.payload_normalize (by decide) content
  · exact Family.payload_normalize (by decide) content

end BuildLog
