import BuildLog.Proofs.Format.Documents
import BuildLog.Reading

/-! What a reference to a rule document can be given up for, besides faults that have a message: the
home folder of an unknown user, a path that no file can have, bytes that are no text, and what the
document itself can be given up for. -/
namespace BuildLog

open Text

namespace World

inductive FileBreaks (w : World) (p : Path) : Fault → Prop
  | path (unusable : isUsable p = false) : FileBreaks w p .badPath
  | bytes {bytes} (usable : isUsable p = true) (found : w.bytes p = .ok bytes)
      (damaged : Utf8.decode? bytes = none) : FileBreaks w p .undecodable

def HasText (w : World) (p : Path) (text : String) : Prop :=
  isUsable p = true ∧ ∃ bytes decoded, w.bytes p = .ok bytes ∧
    Utf8.decode? bytes = some decoded ∧ text = Line.normalize decoded

theorem document_of_unusable {w : World} {p : Path} (unusable : isUsable p = false) :
    w.document p = throw .badPath := by
  unfold document
  rw [unusable]
  rfl

theorem document_of_usable {w : World} {p : Path} (usable : isUsable p = true) :
    w.document p =
      match w.bytes p with
      | .error e => pure (.error e)
      | .ok bytes =>
        match Utf8.decode? bytes with
        | some text => pure (.ok (Line.normalize text))
        | none => throw .undecodable := by
  unfold document
  rw [usable]
  rfl

theorem document_breaksBy (w : World) (p : Path) :
    (w.document p).BreaksBy (w.FileBreaks p) := by
  cases usable : isUsable p with
  | false =>
    rw [document_of_unusable usable]
    refine (Run.BreaksBy.of_throw rfl).congr fun e => ⟨?_, ?_⟩
    · rintro rfl
      exact .path usable
    · rintro (unusable | ⟨other, -, -⟩)
      · rfl
      · cases other.symm.trans usable
  | true =>
    rw [document_of_usable usable]
    have sound (fine : ∀ bytes, w.bytes p = .ok bytes → Utf8.decode? bytes ≠ none) (e : Fault) :
        False ↔ w.FileBreaks p e := by
      refine ⟨False.elim, ?_⟩
      rintro (other | ⟨-, found, damaged⟩)
      · cases other.symm.trans usable
      · exact fine _ found damaged
    cases found : w.bytes p with
    | error cause => exact (Run.BreaksBy.of_pure _).congr (sound (by simp [found]))
    | ok bytes =>
      cases decoded : Utf8.decode? bytes with
      | some text =>
        simp only [decoded]
        exact (Run.BreaksBy.of_pure _).congr (sound (by simp [found, decoded]))
      | none =>
        simp only [decoded]
        refine (Run.BreaksBy.of_throw rfl).congr fun e => ⟨?_, ?_⟩
        · rintro rfl
          exact .bytes usable found decoded
        · rintro (other | -)
          · cases other.symm.trans usable
          · rfl

theorem returns_document {w : World} {p : Path} {text : String} :
    (w.document p).Returns (.ok text) ↔ w.HasText p text := by
  cases usable : isUsable p with
  | false => simp [document_of_unusable usable, HasText, usable]
  | true =>
    rw [document_of_usable usable]
    cases found : w.bytes p with
    | error cause => simp [HasText, found]
    | ok bytes =>
      cases decoded : Utf8.decode? bytes with
      | some text => simp [HasText, found, decoded, usable, eq_comm]
      | none => simp [HasText, found, decoded]

end World

namespace Context

inductive LocationBreaks [Host] (c : Context) (location : String) : Fault → Prop
  | home (unknown : c.documentPath? location = none) : LocationBreaks c location .noHome
  | file {path e} (leads : c.documentPath? location = some path)
      (breaks : c.world.FileBreaks path e) : LocationBreaks c location e

theorem fileText_breaksBy [Host] (c : Context) (location : String) :
    (c.fileText location).BreaksBy (c.LocationBreaks location) := by
  unfold fileText
  cases leads : c.documentPath? location with
  | none =>
    refine (Run.BreaksBy.of_throw rfl).congr fun e => ⟨?_, ?_⟩
    · rintro rfl
      exact .home leads
    · rintro (- | ⟨other, -⟩)
      · rfl
      · cases other.symm.trans leads
  | some path =>
    refine ((World.document_breaksBy c.world path).bind (q := fun _ _ => False)
      fun found _ => ?_).congr fun e => ⟨?_, ?_⟩
    · cases found with
      | ok text => exact .of_pure text
      | error cause => exact .of_config _
    · rintro (breaks | ⟨-, -, never⟩)
      · exact .file leads breaks
      · exact never.elim
    · rintro (other | ⟨same, breaks⟩)
      · cases other.symm.trans leads
      · cases same.symm.trans leads
        exact .inl breaks

theorem returns_fileText [Host] {c : Context} {location text : String} :
    (c.fileText location).Returns text ↔
      ∃ path, c.documentPath? location = some path ∧ c.world.HasText path text := by
  unfold fileText
  cases leads : c.documentPath? location with
  | none => simp
  | some path =>
    constructor
    · intro done
      obtain ⟨found, read, given⟩ := Run.returns_bind done
      cases found with
      | ok other =>
        obtain rfl : other = text := Run.returns_pure.mp given
        exact ⟨path, rfl, World.returns_document.mp read⟩
      | error cause => exact absurd given (Run.not_returns_throw _ _)
    · rintro ⟨_, same, found⟩
      cases same
      exact (World.returns_document.mpr found).bind_pure rfl

theorem pageText_breaksBy [Host] (c : Context) (url : String) :
    (c.pageText url).BreaksBy fun _ => False := by
  unfold pageText
  split
  · exact .of_pure _
  · exact .of_config _

theorem returns_pageText [Host] {c : Context} {url text : String} :
    (c.pageText url).Returns text ↔ c.world.fetch url = .ok text := by
  unfold pageText
  split
  next found => simp [found]
  next failed => simp [failed]

def IsOnDisk (name location : String) : Prop :=
  location = Specifier.location name ∧ location ≠ "" ∧ Specifier.isUrl location = false

def IsOnWeb (name location : String) : Prop :=
  location = Specifier.location name ∧ location ≠ "" ∧ Specifier.isUrl location = true

def HasText [Host] (c : Context) (name text : String) : Prop :=
  ∃ location, (IsOnWeb name location ∧ c.world.fetch location = .ok text) ∨
    (IsOnDisk name location ∧
      ∃ path, c.documentPath? location = some path ∧ c.world.HasText path text)

theorem documentText_breaksBy [Host] (c : Context) (name : String) :
    (c.documentText name).BreaksBy fun e =>
      ∃ location, IsOnDisk name location ∧ c.LocationBreaks location e := by
  unfold documentText IsOnDisk
  dsimp only
  generalize Specifier.location name = location
  by_cases empty : location = ""
  · rw [if_pos (by simpa using empty)]
    exact (Run.BreaksBy.of_config _).congr (by simp [empty])
  · rw [if_neg (by simpa using empty)]
    cases located : Specifier.isUrl location with
    | true => exact (c.pageText_breaksBy location).congr (by simp [located])
    | false =>
      refine (c.fileText_breaksBy location).congr fun e => ⟨?_, ?_⟩
      · intro breaks
        exact ⟨location, ⟨rfl, empty, located⟩, breaks⟩
      · rintro ⟨_, ⟨rfl, -, -⟩, breaks⟩
        exact breaks

theorem returns_documentText [Host] {c : Context} {name text : String} :
    (c.documentText name).Returns text ↔ c.HasText name text := by
  unfold documentText HasText IsOnWeb IsOnDisk
  dsimp only
  generalize Specifier.location name = location
  by_cases empty : location = ""
  · rw [if_pos (by simpa using empty)]
    refine ⟨fun done => absurd done (Run.not_returns_throw _ _), ?_⟩
    rintro ⟨_, ⟨⟨rfl, filled, -⟩, -⟩ | ⟨⟨rfl, filled, -⟩, -⟩⟩
    all_goals exact absurd empty filled
  · rw [if_neg (by simpa using empty)]
    cases located : Specifier.isUrl location with
    | true =>
      rw [if_pos rfl, returns_pageText]
      constructor
      · intro fetched
        exact ⟨location, .inl ⟨⟨rfl, empty, located⟩, fetched⟩⟩
      · rintro ⟨_, ⟨⟨rfl, -, -⟩, fetched⟩ | ⟨⟨rfl, -, onDisk⟩, -⟩⟩
        · exact fetched
        · cases onDisk.symm.trans located
    | false =>
      rw [if_neg Bool.false_ne_true, returns_fileText]
      constructor
      · intro found
        exact ⟨location, .inr ⟨⟨rfl, empty, located⟩, found⟩⟩
      · rintro ⟨_, ⟨⟨rfl, -, onWeb⟩, -⟩ | ⟨⟨rfl, -, -⟩, found⟩⟩
        · cases onWeb.symm.trans located
        · exact found

/-- References that are given up without a message. -/
inductive Breaks [Host] (c : Context) (name : String) : Fault → Prop
  | location {location e} (named : IsOnDisk name location)
      (breaks : c.LocationBreaks location e) : Breaks c name e
  | document {text e} (found : c.HasText name text) (breaks : RuleSet.Breaks text e) :
      Breaks c name e

theorem document_breaksBy [Host] (c : Context) (name : String) :
    (c.document name).BreaksBy (c.Breaks name) := by
  have documents (text : String) := RuleSet.read_breaksBy text
  unfold document
  refine ((c.documentText_breaksBy name).bind fun text _ => documents text).congr
    fun e => ⟨?_, ?_⟩
  · rintro (⟨location, named, breaks⟩ | ⟨text, found, breaks⟩)
    · exact .location named breaks
    · exact .document (returns_documentText.mp found) breaks
  · rintro (⟨named, breaks⟩ | ⟨found, breaks⟩)
    · exact .inl ⟨_, named, breaks⟩
    · exact .inr ⟨_, returns_documentText.mpr found, breaks⟩

/-- A rule document, whether it is given as a text or by a reference, is read to rules or given up
for a fault that has a message, except for these causes; and for one of them it is given up exactly
if nothing that is read before it is at fault. -/
theorem documents_breaksBy [Host] (c : Context) (name text : String) :
    (RuleSet.read text).BreaksBy (RuleSet.Breaks text) ∧
      (c.document name).BreaksBy (c.Breaks name) :=
  ⟨RuleSet.read_breaksBy text, c.document_breaksBy name⟩

end Context

end BuildLog
