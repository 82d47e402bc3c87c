import BuildLog.Proofs.Format.Answering
import BuildLog.Proofs.Reading.Loaded
import BuildLog.Proofs.Registry.Restoring

/-! Specifiers that are refused. Whether a specifier is valid is asked apart from what it stands
for, but both take it apart alike. A valid one has a part that a log can be read by. One that is
refused has none, so nothing is asked, run or loaded for it; only the mark of a pattern without a
pattern is refused and still read, as the pattern that is empty. -/
namespace BuildLog

open Text

namespace Specifier

/-- A pattern is what follows the mark. -/
theorem stripped_of_ofText {text source : String} (marked : ofText text = .pattern source) :
    stripped text = patternMark ++ source := by
  unfold ofText at marked
  dsimp only at marked
  split at marked
  · cases marked
  · split at marked
    · cases marked
    · split at marked
      next rest cut =>
        cases marked
        unfold dropStart? at cut
        split at cut
        next begins =>
          obtain ⟨left, whole⟩ := List.isPrefixOf_iff_prefix.mp begins
          rw [← whole, List.drop_left] at cut
          rw [← String.ofList_toList (s := stripped text), ← whole, Option.some.inj cut,
            String.ofList_append, String.ofList_toList]
        next => cases cut
      next => cases marked

/-- The mark of a pattern alone is the only way to write the empty one. -/
theorem ofText_eq_bare_iff {text : String} :
    ofText text = .pattern "" ↔ stripped text = patternMark := by
  constructor
  · intro bare
    simpa using stripped_of_ofText bare
  · intro marked
    simp only [ofText, marked]
    rfl

end Specifier

/-- What a log can be read by: recognition, a pattern that says something, the formats of a group
that is not empty, a registered format, or a reference to a rule document. -/
inductive Resolution.CanRead (g : Registry) : Resolution → Prop
  | detected : CanRead g .detected
  | pattern {source} (filled : source ≠ "") : CanRead g (.pattern source)
  | group {members} (filled : members ≠ []) (registered : ∀ r ∈ members, r ∈ g.entries) :
    CanRead g (.group members)
  | format {r} (registered : r ∈ g.entries) : CanRead g (.format r)
  | document {name} (reference : Specifier.isDocument name = true) : CanRead g (.document name)

namespace Registry

variable {g : Registry}

/-- A group has a member. -/
theorem inGroup_ne_nil (valid : g.Consistent) {tag : String} (group : g.isGroup tag = true) :
    g.inGroup tag ≠ [] := by
  obtain ⟨r, member, tagged⟩ := List.any_eq_true.mp group
  exact List.ne_nil_of_mem (List.mem_filter.mpr ⟨(mem_ranked valid).mpr member, tagged⟩)

theorem inGroup_mem (valid : g.Consistent) {tag : String} :
    ∀ r ∈ g.inGroup tag, r ∈ g.entries :=
  fun _ member => (mem_ranked valid).mp (List.mem_filter.mp member).1

theorem canRead_of_isValid (valid : g.Consistent) {s : Specifier} (accepted : s.isValid g = true) :
    (g.resolve s).CanRead g := by
  cases s with
  | unknown => cases accepted
  | auto => exact .detected
  | pattern source =>
    refine .pattern fun empty => ?_
    simp [Specifier.isValid, empty] at accepted
  | named name =>
    cases group : g.isGroup name with
    | true =>
      rw [resolve_group group]
      exact .group (inGroup_ne_nil valid group) (inGroup_mem valid)
    | false =>
      cases found : g.find? name with
      | some r =>
        rw [resolve_format group found]
        exact .format (owner?_mem (valid.find?_eq name ▸ found)).1
      | none =>
        have reference : Specifier.isDocument name = true := by
          simpa [Specifier.isValid, has, found, group] using accepted
        have resolved : g.resolve (.named name) = .document name := by
          simp only [resolve, group, found, reference, Bool.false_eq_true, if_false, if_true]
        rw [resolved]
        exact .document reference

/-- What is refused stands for nothing, or for the pattern that is empty. -/
theorem resolve_of_refused {s : Specifier} (refused : s.isValid g = false) :
    g.resolve s = .nothing ∨ s = .pattern "" := by
  cases s with
  | unknown => exact .inl rfl
  | auto => cases refused
  | pattern source =>
    have empty : source = "" := by simpa [Specifier.isValid] using refused
    exact .inr (empty ▸ rfl)
  | named name =>
    simp only [Specifier.isValid, has, Bool.or_eq_false_iff, Option.isSome_eq_false_iff,
      Option.isNone_iff_eq_none] at refused
    obtain ⟨⟨missing, group⟩, document⟩ := refused
    left
    simp only [resolve, group, missing, document, Bool.false_eq_true, if_false]

end Registry

namespace Format.AdHoc

/-- The empty pattern tells something of every log. -/
theorem parse_empty [Host] (keepUnread : Bool) (content : String) :
    ∃ events, parse "" keepUnread content = pure events ∧ events.isEmpty = false := by
  have sound : compiled "" = pure (.ok ⟨"", .empty, 0, []⟩) := by
    have read : Pattern.compile "" = pure ⟨"", .empty, 0, []⟩ :=
      Pattern.compile_eq_pure (by cbv) (by cbv)
    simp only [compiled, read]
    rfl
  obtain ⟨events, found⟩ := eventsFrom_answers ⟨"", .empty, 0, []⟩ keepUnread 1
    (Line.read Line.defaultLimit content)
  rw [parse, sound, pure_bind]
  simp only [found, pure_bind]
  refine ⟨_, rfl, ?_⟩
  split
  · simp
  next told =>
    cases events with
    | nil => simp at told
    | cons e rest => rfl

end Format.AdHoc

namespace Context

section

variable [Host] {c : Context} {parts : List String}

theorem runParts_of_nothing
    (nothing : ∀ part ∈ parts, c.registry.resolve (.ofText part) = .nothing) (content : String) :
    c.runParts content parts = pure [] := by
  induction parts with
  | nil => rfl
  | cons part rest ih =>
    obtain ⟨first, later⟩ := List.forall_mem_cons.mp nothing
    rw [runParts_cons, first, ← ih later]
    rfl

/-- Parts that stand for nothing are passed over. -/
theorem runParts_of_bareMark
    (refused : ∀ part ∈ parts, (Specifier.ofText part).isValid c.registry = false)
    (bare : ∃ part ∈ parts, Specifier.ofText part = .pattern "") (content : String) :
    c.runParts content parts = Format.AdHoc.parse "" false content := by
  induction parts with
  | nil =>
    obtain ⟨part, member, -⟩ := bare
    cases member
  | cons part rest ih =>
    obtain ⟨first, later⟩ := List.forall_mem_cons.mp refused
    rw [runParts_cons]
    by_cases marked : Specifier.ofText part = .pattern ""
    · obtain ⟨events, read, some⟩ := Format.AdHoc.parse_empty false content
      rw [marked, Registry.resolve, runResolution, read, pure_bind, some]
      rfl
    · have nothing := (Registry.resolve_of_refused first).resolve_right marked
      rw [nothing, ← ih later]
      · rfl
      · obtain ⟨other, member, empty⟩ := bare
        rcases List.mem_cons.mp member with rfl | behind
        · exact absurd empty marked
        · exact ⟨other, behind, empty⟩

/-- If a specifier is refused then none of its parts stands for anything and a log is read to no
events, unless a part is the mark of a pattern alone; then the log is read by the empty pattern. If
it is valid then one of its parts stands for something that a log can be read by. -/
theorem parse_of_validity (c : Context) (reached : c.registry.Reached) (content format : String) :
    (c.registry.accepts format = false →
      ((∀ part ∈ Specifier.parts format, stripped part ≠ Specifier.patternMark) →
        (∀ part ∈ Specifier.parts format, c.registry.resolve (.ofText part) = .nothing) ∧
          c.parse content format = pure []) ∧
      ((∃ part ∈ Specifier.parts format, stripped part = Specifier.patternMark) →
        c.parse content format = Format.AdHoc.parse "" false content)) ∧
    (c.registry.accepts format = true →
      ∃ part ∈ Specifier.parts format,
        (c.registry.resolve (.ofText part)).CanRead c.registry) := by
  refine ⟨fun refused => ?_, fun accepted => ?_⟩
  · have each : ∀ part ∈ Specifier.parts format,
        (Specifier.ofText part).isValid c.registry = false := by
      simpa [Registry.accepts] using refused
    constructor
    · intro unmarked
      have nothing : ∀ part ∈ Specifier.parts format,
          c.registry.resolve (.ofText part) = .nothing := by
        intro part member
        refine (Registry.resolve_of_refused (each part member)).resolve_right fun bare => ?_
        exact unmarked part member (Specifier.ofText_eq_bare_iff.mp bare)
      exact ⟨nothing, runParts_of_nothing nothing content⟩
    · rintro ⟨part, member, marked⟩
      have bare := Specifier.ofText_eq_bare_iff.mpr marked
      exact runParts_of_bareMark each ⟨part, member, bare⟩ content
  · obtain ⟨part, member, valid⟩ := List.any_eq_true.mp accepted
    exact ⟨part, member, Registry.canRead_of_isValid reached.sound.consistent valid⟩

end

/-- A name that is not registered, blanks and the word for no format; the mark alone; and a
loaded name behind one that is not registered. -/
theorem parse_of_validity_lists :
    let c : Context := { registry := Registry.ruledRegistry }
    c.registry.Reached ∧
    (c.registry.accepts "nope, ,unknown" = false ∧ c.parse "error: e" "nope, ,unknown" = pure []) ∧
    (c.registry.accepts "nope, regexp: " = false ∧
      c.parse "error: e" "nope, regexp: " = Format.AdHoc.parse "" false "error: e") ∧
    c.registry.accepts "nope, x" = true ∧ ∃ part ∈ Specifier.parts "nope, x",
      (c.registry.resolve (.ofText part)).CanRead c.registry := by
  intro c
  have came : c.registry = Registry.standard.register (Registry.ruledSet "a" ["x"]).format :=
    Registry.ruledRegistry_eq
  have unknown : c.registry.accepts "nope, ,unknown" = false := by
    rw [came]
    decide
  have bare : c.registry.accepts "nope, regexp: " = false := by
    rw [came]
    decide
  have loaded : c.registry.accepts "nope, x" = true := by
    rw [came]
    decide
  have reached : c.registry.Reached := Registry.ruledRegistry_reached
  have read (format : String) := parse_of_validity c reached "error: e" format
  obtain ⟨-, nothing⟩ := ((read _).1 unknown).1 (by decide)
  have empty := ((read _).1 bare).2 (by decide)
  exact ⟨reached, ⟨unknown, nothing⟩, ⟨bare, empty⟩, loaded, (read _).2 loaded⟩

end Context

end BuildLog
