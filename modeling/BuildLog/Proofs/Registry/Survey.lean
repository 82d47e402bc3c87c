import BuildLog.Survey
import BuildLog.Proofs.Registry.Detection
import BuildLog.Proofs.Registry.Editing
import Mathlib.Data.List.Forall2

/-! The survey of a log beside its recognition and its reading. All three go through the registered
formats by themselves, and each deals with formats that give up in its own way: recognition passes
over them, the survey writes down that they do not accept the log, and reading gives up likewise.
They agree on formats that can be asked more than once. -/
namespace BuildLog

open Registry

/-- If each element has an answer of its kind then so has the list. -/
theorem Run.mapM_ok {f : α → Run β} {R : β → α → Prop} {l : List α}
    (each : ∀ a ∈ l, ∀ told, ∃ b told', f a told = (.ok b, told') ∧ R b a) (told : Array Notice) :
    ∃ bs told', l.mapM f told = (.ok bs, told') ∧ List.Forall₂ R bs l := by
  induction l generalizing told with
  | nil => exact ⟨[], told, rfl, .nil⟩
  | cons a rest ih =>
    obtain ⟨b, middle, first, related⟩ := each a (by simp) told
    obtain ⟨bs, told', later, others⟩ := ih (fun c member => each c (by simp [member])) middle
    refine ⟨b :: bs, told', ?_, .cons related others⟩
    rw [List.mapM_cons, bind_apply, first]
    dsimp only
    rw [bind_apply, later]
    rfl

def Registration.AcceptsLog (content : String) (r : Registration) : Prop :=
  (r.format.acceptsLog content).Ends (.ok true)

namespace Registry

/-- If asking is steady then the first format that accepts is the same each time. -/
theorem accepting?_ends {content : String} {members : List Registration}
    (steady : ∀ r ∈ members, (r.format.acceptsLog content).IsSteady) :
    ((∀ r ∈ members, ¬r.AcceptsLog content) ∧ (accepting? content members).Ends (.ok none)) ∨
    ∃ before r after, members = before ++ r :: after ∧ (∀ b ∈ before, ¬b.AcceptsLog content) ∧
      r.AcceptsLog content ∧ (accepting? content members).Ends (.ok (some r)) := by
  induction members with
  | nil => exact .inl ⟨List.forall_mem_nil _, Run.ends_pure none⟩
  | cons r rest ih =>
    obtain ⟨⟨asked, ends⟩, later⟩ := List.forall_mem_cons.mp steady
    have handedOn (refuses : ¬r.AcceptsLog content)
        (answered : ((r.format.acceptsLog content).orElse false).Ends (.ok false)) :
        ((∀ s ∈ r :: rest, ¬s.AcceptsLog content) ∧
          (accepting? content (r :: rest)).Ends (.ok none)) ∨
        ∃ before s after, r :: rest = before ++ s :: after ∧
          (∀ b ∈ before, ¬b.AcceptsLog content) ∧ s.AcceptsLog content ∧
          (accepting? content (r :: rest)).Ends (.ok (some s)) := by
      rw [accepting?_cons]
      rcases ih later with ⟨none, ended⟩ | ⟨before, s, after, rfl, earlier, accepts, ended⟩
      · exact .inl ⟨List.forall_mem_cons.mpr ⟨refuses, none⟩, answered.bind_ok ended⟩
      · exact .inr ⟨r :: before, s, after, rfl, List.forall_mem_cons.mpr ⟨refuses, earlier⟩,
          accepts, answered.bind_ok ended⟩
    rcases asked with e | _ | _
    · exact handedOn (fun accepts => nomatch ends.unique accepts) (ends.orElse_error false)
    · exact handedOn (fun accepts => nomatch ends.unique accepts) (ends.orElse_ok false)
    · refine .inr ⟨[], r, rest, rfl, by simp, ends, ?_⟩
      rw [accepting?_cons]
      exact (ends.orElse_ok false).bind_ok (Run.ends_pure _)

end Registry

namespace Finding

/-- What a row says of the format that it is about. Nothing is said of the events of a format that
accepts the log and does not read it alike each time. -/
structure IsAbout [Host] (c : Context) (selected : Option Nat) (content : String) (f : Finding)
    (r : Registration) : Prop where
  format : f.format = r.profile.format
  priority : f.priority = r.profile.priority
  isSelected : f.isSelected = (selected == some r.serial)
  declined : ¬r.AcceptsLog content → f.accepts = false
  read : r.AcceptsLog content → ∀ events, (c.run r.format content).Ends (.ok events) →
    f.accepts = true ∧ f.events = events.length
  failed : r.AcceptsLog content → ∀ e, (c.run r.format content).Ends (.error e) →
    f.accepts = false

theorem eventCount?_of_declines [Host] {c : Context} {f : Format} {content : String}
    (steady : (f.acceptsLog content).IsSteady)
    (declines : ¬(f.acceptsLog content).Ends (.ok true)) :
    (eventCount? c f content).Ends (.ok none) := by
  obtain ⟨e | _ | _, ends⟩ := steady
  · exact (ends.bind_error _).orElse_error none
  · exact (ends.bind_ok (Run.ends_pure none)).orElse_ok none
  · exact absurd ends declines

theorem eventCount?_of_read [Host] {c : Context} {f : Format} {content : String}
    {events : List Event} (accepts : (f.acceptsLog content).Ends (.ok true))
    (read : (c.run f content).Ends (.ok events)) :
    (eventCount? c f content).Ends (.ok (some events.length)) := by
  have counted := read.bind_ok (f := fun events => pure (some events.length))
    (Run.ends_pure _)
  exact (accepts.bind_ok counted).orElse_ok none

theorem eventCount?_of_failed [Host] {c : Context} {f : Format} {content : String} {e : Fault}
    (accepts : (f.acceptsLog content).Ends (.ok true))
    (failed : (c.run f content).Ends (.error e)) :
    (eventCount? c f content).Ends (.ok none) := by
  have given := failed.bind_error fun events => pure (some events.length)
  exact (accepts.bind_ok given).orElse_error none

theorem of_ok [Host] (c : Context) (selected : Option Nat) {content : String} {r : Registration}
    (steady : (r.format.acceptsLog content).IsSteady) (told : Array Notice) :
    ∃ f told', of c selected content r told = (.ok f, told') ∧
      f.IsAbout c selected content r := by
  obtain ⟨count, told', counted⟩ : ∃ count told',
      eventCount? c r.format content told = (.ok count, told') := Run.orElse_ok _ _ _
  have same {known : Option Nat} (ends : (eventCount? c r.format content).Ends (.ok known)) :
      count = known := by
    obtain ⟨last, done⟩ := ends told
    rw [counted] at done
    exact Except.ok.inj (congrArg Prod.fst done)
  let f : Finding := {
    format := r.profile.format
    priority := r.profile.priority
    accepts := count.isSome
    events := count.getD 0
    isSelected := selected == some r.serial }
  refine ⟨f, told', by rw [of, Run.bind_apply, counted]; rfl, rfl, rfl, rfl, fun declines => ?_,
    fun accepts events ended => ?_, fun accepts e ended => ?_⟩
  · have none := same (eventCount?_of_declines steady declines)
    simp only [f, none, Option.isSome_none]
  · have some := same (eventCount?_of_read accepts ended)
    simp only [f, some, Option.isSome_some, Option.getD_some, and_self]
  · have none := same (eventCount?_of_failed accepts ended)
    simp only [f, none, Option.isSome_none]

end Finding

namespace Registry

/-- The rows of a survey, one for each format in the order of priority. -/
theorem survey_ok [Host] {g : Registry} {content : String} {selected : Option Registration}
    (valid : g.Consistent)
    (steady : ∀ r ∈ g.entries, (r.format.acceptsLog content).IsSteady)
    (found : (g.detect content).Ends (.ok selected)) (told : Array Notice) :
    ∃ findings told', g.survey content told = (.ok findings, told') ∧
      List.Forall₂
        (fun f r => f.IsAbout { registry := g } (selected.map (·.serial)) content r)
        findings g.ranked := by
  obtain ⟨middle, done⟩ := found told
  have each : ∀ r ∈ g.ranked, ∀ told, ∃ f told',
      Finding.of { registry := g } (selected.map (·.serial)) content r told = (.ok f, told') ∧
        f.IsAbout { registry := g } (selected.map (·.serial)) content r :=
    fun r member => Finding.of_ok _ _ (steady r ((mem_ranked valid).mp member))
  obtain ⟨findings, told', surveyed, about⟩ := Run.mapM_ok each middle
  refine ⟨findings, told', ?_, about⟩
  rw [survey, Run.bind_apply, done]
  exact surveyed

theorem ranked_perm {g : Registry} (valid : g.Consistent) : g.ranked.Perm g.entries :=
  valid.ranked_eq ▸ byPriority_perm g.entries

section Rows

variable [Host] {g : Registry} {c : Context} {selected : Option Nat} {content : String}
  {findings : List Finding} {members : List Registration}

/-- The rows tell the formats in their order. -/
theorem findings_map
    (about : List.Forall₂ (fun f r => f.IsAbout c selected content r) findings members) :
    findings.map (fun f => (f.format, f.priority)) =
      members.map fun r => (r.profile.format, r.profile.priority) := by
  induction about with
  | nil => rfl
  | cons first _ ih => rw [List.map_cons, List.map_cons, first.format, first.priority, ih]

theorem findings_perm (valid : g.Consistent)
    (about : List.Forall₂ (fun f r => f.IsAbout c selected content r) findings g.ranked) :
    (findings.map fun f => (f.format, f.priority)).Perm
      (g.entries.map fun r => (r.profile.format, r.profile.priority)) :=
  findings_map about ▸ (ranked_perm valid).map _

theorem findings_pairwise (valid : g.Consistent)
    (about : List.Forall₂ (fun f r => f.IsAbout c selected content r) findings g.ranked) :
    findings.Pairwise fun f later => later.priority ≤ f.priority := by
  have sorted : g.ranked.Pairwise fun r later => later.profile.priority ≤ r.profile.priority :=
    valid.ranked_eq ▸ byPriority_pairwise g.entries
  have rows : (findings.map fun f => (f.format, f.priority)).Pairwise
      fun row later => later.2 ≤ row.2 := by
    rw [findings_map about]
    exact List.pairwise_map.mpr sorted
  exact List.pairwise_map.mp rows

/-- What holds of the row about each format holds of all rows. -/
theorem findings_forall {p : Finding → Prop}
    (about : List.Forall₂ (fun f r => f.IsAbout c selected content r) findings members)
    (each : ∀ r ∈ members, ∀ f : Finding, f.IsAbout c selected content r → p f) :
    ∀ f ∈ findings, p f := by
  induction about with
  | nil => exact List.forall_mem_nil p
  | cons first _ ih =>
    obtain ⟨own, others⟩ := List.forall_mem_cons.mp each
    exact List.forall_mem_cons.mpr ⟨own _ first, ih others⟩

/-- The row of the chosen format stands alone, since no other format has its number. -/
theorem findings_selected {before after : List Registration} {r : Registration}
    (apart : ((before ++ r :: after).map (·.serial)).Nodup)
    (declined : ∀ b ∈ before, ¬b.AcceptsLog content)
    (about : List.Forall₂ (fun f s => f.IsAbout c (some r.serial) content s) findings
      (before ++ r :: after)) :
    ∃ first f last, findings = first ++ f :: last ∧
      (∀ other ∈ first, other.isSelected = false ∧ other.accepts = false) ∧
      (∀ other ∈ last, other.isSelected = false) ∧ f.IsAbout c (some r.serial) content r := by
  rw [List.map_append, List.map_cons, List.nodup_append] at apart
  obtain ⟨-, own, ahead⟩ := apart
  have unselected {f : Finding} {s : Registration} (row : f.IsAbout c (some r.serial) content s)
      (other : s.serial ≠ r.serial) : f.isSelected = false := by
    rw [row.isSelected]
    simpa using other.symm
  have first := List.forall₂_take_append findings before (r :: after) about
  have rest := List.forall₂_drop_append findings before (r :: after) about
  obtain ⟨f, last, chosen, behind, left⟩ := List.forall₂_cons_right_iff.mp rest
  refine ⟨findings.take before.length, f, last, ?_, ?_, ?_, chosen⟩
  · rw [← left, List.take_append_drop]
  · refine findings_forall first fun s member f row => ⟨unselected row ?_, ?_⟩
    · exact ahead _ (List.mem_map_of_mem member) _ List.mem_cons_self
    · exact row.declined (declined s member)
  · refine findings_forall behind fun s member f row => unselected row fun same => ?_
    exact (List.nodup_cons.mp own).1 (same ▸ List.mem_map_of_mem member)

end Rows

/-- Whatever was done with the registry before, if no format is registered twice then the survey of
a log, the name of the format that it is recognised as and its reading by recognition agree. To ask
a format whether it accepts a log has no effect that later answers depend on. -/
theorem survey_agrees [Host] {g : Registry} (reached : g.Reached)
    (distinct : (g.entries.map (·.serial)).Nodup) (content : String)
    (steady : ∀ r ∈ g.entries, (r.format.acceptsLog content).IsSteady) (told : Array Notice) :
    let c : Context := { registry := g }
    ∃ name findings told', (c.detectedName content).Ends (.ok name) ∧
      g.survey content told = (.ok findings, told') ∧
      (findings.map fun f => (f.format, f.priority)).Perm
        (g.entries.map fun r => (r.profile.format, r.profile.priority)) ∧
      findings.Pairwise (fun f later => later.priority ≤ f.priority) ∧
      (name = "" → ∀ f ∈ findings, f.isSelected = false ∧ f.accepts = false) ∧
      (name ≠ "" → ∃ before f after r, findings = before ++ f :: after ∧
        (∀ other ∈ before, other.isSelected = false ∧ other.accepts = false) ∧
        (∀ other ∈ after, other.isSelected = false) ∧
        f.isSelected = true ∧ f.format = name ∧
        r ∈ g.entries ∧ r.profile.format = name ∧ (g.detect content).Ends (.ok (some r)) ∧
        (∀ events, (c.run r.format content).Ends (.ok events) →
          f.accepts = true ∧ f.events = events.length ∧
            (c.runDetected content).Ends (.ok events)) ∧
        ∀ e, (c.run r.format content).Ends (.error e) →
          f.accepts = false ∧ (c.runDetected content).Ends (.error e)) := by
  intro c
  have sound := reached.sound
  have valid := sound.consistent
  have ranked := ranked_perm valid
  have asked : ∀ r ∈ g.ranked, (r.format.acceptsLog content).IsSteady :=
    fun r member => steady r (ranked.mem_iff.mp member)
  obtain ⟨none, ends⟩ | ⟨before, r, after, split, earlier, accepts, ends⟩ := accepting?_ends asked
  · obtain ⟨findings, told', surveyed, about⟩ := survey_ok valid steady ends told
    refine ⟨"", findings, told', ends.bind_ok (Run.ends_pure _), surveyed,
      findings_perm valid about, findings_pairwise valid about, fun _ => ?_,
      fun named => absurd rfl named⟩
    exact findings_forall about fun r member f row => ⟨row.isSelected, row.declined (none r member)⟩
  · obtain ⟨findings, told', surveyed, about⟩ := survey_ok valid steady ends told
    have member : r ∈ g.entries := ranked.mem_iff.mp (split ▸ List.mem_append_cons_self)
    refine ⟨r.profile.format, findings, told', ends.bind_ok (Run.ends_pure _), surveyed,
      findings_perm valid about, findings_pairwise valid about, fun unnamed => ?_, fun _ => ?_⟩
    · have named := sound.named r member
      rw [unnamed] at named
      cases named
    · have apart : ((before ++ r :: after).map (·.serial)).Nodup :=
        split ▸ (ranked.map _).nodup_iff.mpr distinct
      rw [split] at about
      obtain ⟨first, f, last, rfl, ahead, behind, chosen⟩ :=
        findings_selected apart earlier about
      refine ⟨first, f, last, r, rfl, ahead, behind, chosen.isSelected.trans (by simp),
        chosen.format, member, rfl, ends, fun events ended => ?_, fun e ended => ?_⟩
      · obtain ⟨read, counted⟩ := chosen.read accepts events ended
        exact ⟨read, counted, ends.bind_ok ended⟩
      · exact ⟨chosen.failed accepts e ended, ends.bind_ok ended⟩

/-- A format of a caller's own that does the same with each log. -/
def brought (name : String) (priority : Int) (accepts : Run Bool) (parse : Run (List Event)) :
    Format where
  profile := { format := name, priority, isBuiltin := false }
  accepts _ := accepts
  parse _ := parse

def late : Format := brought "late" 1 (pure true) (throw .format)

def faulty : Format := brought "faulty" 9 (throw .format) (pure [])

def chosen : Format :=
  brought "chosen" 5 (pure true) (pure [Profile.event { format := "chosen" }])

/-- One that would accept but comes last and fails then, one that gives up when it is asked, and
one that reads an event. -/
def mixedRegistry : Registry := .ofFormats [late, faulty, chosen]

theorem ranked_mixedRegistry : mixedRegistry.ranked = [⟨1, faulty⟩, ⟨2, chosen⟩, ⟨0, late⟩] := by
  let first : List (Registration × Nat) := [(⟨1, faulty⟩, 1), (⟨2, chosen⟩, 2)]
  let last : Registration × Nat := (⟨0, late⟩, 0)
  have perm : (first ++ [last]).Perm mixedRegistry.entries.zipIdx :=
    List.perm_append_singleton last first
  have outranks : (first ++ [last]).Pairwise Outranks := by decide
  exact (ofFormats_consistent _).ranked_eq.trans (byPriority_eq perm outranks)

theorem survey_agrees_mixed :
    let g := mixedRegistry
    let c : Context := { registry := g }
    g.Reached ∧ (g.entries.map (·.serial)).Nodup ∧
    (∀ r ∈ g.entries, (r.format.acceptsLog "x").IsSteady) ∧
    (c.detectedName "x").Ends (.ok "chosen") ∧
    ∃ before f after told', g.survey "x" #[] = (.ok (before ++ f :: after), told') ∧
      (∀ other ∈ before, other.isSelected = false ∧ other.accepts = false) ∧
      f.isSelected = true ∧ f.format = "chosen" ∧ f.accepts = true ∧ f.events = 1 ∧
      (c.runDetected "x").Ends (.ok [Profile.event { format := "chosen" }]) := by
  intro g c
  have reached : g.Reached := .ofFormats _
  have distinct : (g.entries.map (·.serial)).Nodup := by decide
  have steady : ∀ r ∈ g.entries, (r.format.acceptsLog "x").IsSteady := by
    have told {r : Except Fault Bool} : ∀ told : Array Notice, ∃ told', (r, told) = (r, told') :=
      fun told => ⟨told, rfl⟩
    exact List.forall_mem_cons.mpr ⟨⟨.ok true, told⟩, List.forall_mem_cons.mpr
      ⟨⟨.error .format, told⟩, List.forall_mem_singleton.mpr ⟨.ok true, told⟩⟩⟩
  obtain ⟨name, findings, told', named, surveyed, -, -, -, chosen⟩ :=
    survey_agrees reached distinct "x" steady #[]
  have known : c.detectedName "x" #[] = (.ok "chosen", #[]) := by
    rw [Context.detectedName, detect, ranked_mixedRegistry]
    rfl
  obtain ⟨last, done⟩ := named #[]
  obtain rfl : "chosen" = name := Except.ok.inj (congrArg Prod.fst (known.symm.trans done))
  obtain ⟨before, f, after, r, rfl, ahead, -, selected, own, member, given, -, read, -⟩ :=
    chosen (by decide)
  have run : ∀ r ∈ g.entries, r.profile.format = "chosen" →
      (c.run r.format "x").Ends (.ok [Profile.event { format := "chosen" }]) :=
    List.forall_mem_cons.mpr ⟨fun late => absurd late (by decide), List.forall_mem_cons.mpr
      ⟨fun faulty => absurd faulty (by decide), List.forall_mem_singleton.mpr
        fun _ told => ⟨told, rfl⟩⟩⟩
  obtain ⟨accepts, counted, events⟩ := read _ (run r member given)
  exact ⟨reached, distinct, steady, named, before, f, after, told', surveyed, ahead, selected, own,
    accepts, counted, events⟩

end Registry

end BuildLog
