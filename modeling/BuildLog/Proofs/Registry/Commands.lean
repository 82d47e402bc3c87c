import BuildLog.Proofs.Registry.Calls

/-! The format that a command points at. In the view by priority the walk that keeps the best match
ends at the first one, and it gives up exactly if some pattern before this match does. Formats that
are always known have no such pattern: they know their commands by whole words or by wildcards. -/
namespace BuildLog

namespace CommandPattern

def IsPlain (p : CommandPattern) : Prop := p.kind = .literal ∨ p.kind = .like

instance (p : CommandPattern) : Decidable p.IsPlain := inferInstanceAs (Decidable (_ ∨ _))

/-- Compiling, where the pattern has to be compiled, does not give up; it may find a fault. -/
def Compiles [Host] (p : CommandPattern) : Prop :=
  p.kind ≠ .literal → ∃ compiled, Command.compile? p.kind p.pattern = .ok compiled

theorem IsPlain.compiles [Host] {p : CommandPattern} (plain : p.IsPlain) : p.Compiles := by
  intro compiled
  have like : p.kind = .like := plain.resolve_left compiled
  exact ⟨some (Pattern.Like.pattern p.pattern), by rw [like]; rfl⟩

/-- Whether a normalized command matches; a pattern that gives up does not. -/
def fits [Host] (command : String) (p : CommandPattern) : Bool :=
  (p.matches? command).toOption.getD false

theorem Compiles.matches?_eq [Host] {p : CommandPattern} (compiles : p.Compiles)
    (command : String) : p.matches? command = .ok (p.fits command) := by
  obtain ⟨pattern, kind⟩ := p
  cases kind with
  | literal => rfl
  | _ =>
    obtain ⟨compiled, given⟩ := compiles nofun
    dsimp only at given
    simp only [fits, matches?, given, Except.map, Except.toOption, Option.getD_some]

theorem matches?_of_not_compiles [Host] {p : CommandPattern} (overtaxing : ¬p.Compiles)
    (command : String) : ∃ e, p.matches? command = .error e := by
  obtain ⟨searched, unknown⟩ := Classical.not_imp.mp overtaxing
  obtain ⟨pattern, kind⟩ := p
  cases read : Command.compile? kind pattern with
  | ok compiled => exact absurd ⟨compiled, read⟩ unknown
  | error e =>
    refine ⟨e, ?_⟩
    cases kind with
    | literal => exact absurd rfl searched
    | _ => simp only [matches?, read, Except.map]

/-- One of some patterns gives up, and none before it fits the command. -/
def GivesUp [Host] (command : String) (l : List CommandPattern) : Prop :=
  ∃ before p after, l = before ++ p :: after ∧ (∀ q ∈ before, q.fits command = false) ∧ ¬p.Compiles

section

variable [Host] {command : String} {l : List CommandPattern}

theorem givesUp_nil : ¬GivesUp command [] := by
  rintro ⟨before, p, after, split, -⟩
  simp at split

theorem givesUp_cons {p : CommandPattern} :
    GivesUp command (p :: l) ↔ ¬p.Compiles ∨ p.fits command = false ∧ GivesUp command l := by
  constructor
  · rintro ⟨_ | ⟨q, before⟩, r, after, split, declining, overtaxing⟩
    · exact .inl ((List.cons.inj split).1 ▸ overtaxing)
    · obtain ⟨rfl, rfl⟩ := List.cons.inj split
      obtain ⟨first, declining⟩ := List.forall_mem_cons.mp declining
      exact .inr ⟨first, before, r, after, rfl, declining, overtaxing⟩
  · rintro (overtaxing | ⟨first, before, r, after, rfl, declining, overtaxing⟩)
    · exact ⟨[], p, l, rfl, by simp, overtaxing⟩
    · exact ⟨p :: before, r, after, rfl, List.forall_mem_cons.mpr ⟨first, declining⟩, overtaxing⟩

theorem givesUp_append {m : List CommandPattern} :
    GivesUp command (l ++ m) ↔
      GivesUp command l ∨ l.any (·.fits command) = false ∧ GivesUp command m := by
  induction l with
  | nil => simp [givesUp_nil]
  | cons p l ih =>
    simp only [List.cons_append, givesUp_cons, ih, List.any_cons, Bool.or_eq_false_iff]
    tauto

theorem givesUp_of_mem (declining : ∀ q ∈ l, q.fits command = false) {p : CommandPattern}
    (member : p ∈ l) (overtaxing : ¬p.Compiles) : GivesUp command l := by
  obtain ⟨before, after, rfl⟩ := List.append_of_mem member
  exact ⟨before, p, after, rfl, fun q earlier => declining q (by simp [earlier]), overtaxing⟩

theorem not_givesUp (compiling : ∀ p ∈ l, p.Compiles) : ¬GivesUp command l := by
  rintro ⟨before, p, after, rfl, -, overtaxing⟩
  exact overtaxing (compiling p (by simp))

end

end CommandPattern

namespace Registry

def matching? [Host] (command : String) : List Registration → Run (Option Registration)
  | [] => return none
  | r :: rest => do
    if ← matchesCommand command r then return some r
    else matching? command rest

/-- A match ends the walk, since all formats behind it are of its priority at most. -/
theorem bestFrom?_of_behind {m : Type → Type} [Monad m] (knows : Registration → m Bool)
    {b : Registration} {l : List Registration}
    (behind : ∀ r ∈ l, r.profile.priority ≤ b.profile.priority) :
    bestFrom? knows (some b) l = pure (some b) := by
  cases l with
  | nil => rfl
  | cons r rest =>
    have first := behind r (by simp)
    simp [bestFrom?, first]

theorem bestFrom?_eq_matching? [Host] {l : List Registration} (command : String)
    (sorted : l.Pairwise fun a b => b.profile.priority ≤ a.profile.priority) :
    bestFrom? (matchesCommand command) none l = matching? command l := by
  induction l with
  | nil => rfl
  | cons r rest ih =>
    obtain ⟨behind, sorted⟩ := List.pairwise_cons.mp sorted
    simp only [bestFrom?, matching?, Option.any_none, Bool.false_eq_true, if_false,
      bestFrom?_of_behind _ behind, ih sorted]

theorem Consistent.byCommand_eq_matching? [Host] {g : Registry} (valid : g.Consistent)
    (command : String) :
    g.byCommand command =
      if (Command.normalize command).isEmpty then pure none
      else matching? (Command.normalize command) g.ranked := by
  have sorted := byPriority_pairwise g.entries
  rw [← valid.ranked_eq] at sorted
  simp only [byCommand, bestFrom?_eq_matching? _ sorted]

section

variable [Host] {command : String}

theorem anyM_matches? {l : List CommandPattern} (free : ¬CommandPattern.GivesUp command l) :
    (l.anyM fun p => ofPattern (p.matches? command)) = pure (l.any (·.fits command)) := by
  induction l with
  | nil => rfl
  | cons p rest ih =>
    rw [CommandPattern.givesUp_cons, not_or, not_not] at free
    rw [List.anyM, free.1.matches?_eq, ofPattern, pure_bind, List.any_cons]
    cases fits : p.fits command with
    | true => rfl
    | false => exact ih fun later => free.2 ⟨fits, later⟩

theorem anyM_of_givesUp {l : List CommandPattern} (stuck : CommandPattern.GivesUp command l) :
    ∃ e, (l.anyM fun p => ofPattern (p.matches? command)) = throw (.pattern e) := by
  induction l with
  | nil => exact absurd stuck CommandPattern.givesUp_nil
  | cons p rest ih =>
    by_cases compiles : p.Compiles
    · obtain overtaxing | ⟨fits, later⟩ := CommandPattern.givesUp_cons.mp stuck
      · exact absurd compiles overtaxing
      · rw [List.anyM, compiles.matches?_eq, fits, ofPattern, pure_bind]
        exact ih later
    · obtain ⟨e, failed⟩ := CommandPattern.matches?_of_not_compiles compiles command
      exact ⟨e, by rw [List.anyM, failed, ofPattern, Run.throw_bind]⟩

theorem matching?_eq_find? {l : List Registration}
    (free : ¬CommandPattern.GivesUp command (l.flatMap (·.profile.commands))) :
    matching? command l = pure (l.find? (·.profile.commands.any (·.fits command))) := by
  induction l with
  | nil => rfl
  | cons r rest ih =>
    rw [List.flatMap_cons, CommandPattern.givesUp_append, not_or] at free
    rw [matching?, matchesCommand, anyM_matches? free.1, pure_bind, List.find?_cons]
    cases fits : r.profile.commands.any (·.fits command) with
    | true => rfl
    | false => exact ih fun later => free.2 ⟨fits, later⟩

theorem matching?_of_givesUp {l : List Registration}
    (stuck : CommandPattern.GivesUp command (l.flatMap (·.profile.commands))) :
    ∃ e, matching? command l = throw (.pattern e) := by
  induction l with
  | nil => exact absurd stuck CommandPattern.givesUp_nil
  | cons r rest ih =>
    by_cases first : CommandPattern.GivesUp command r.profile.commands
    · obtain ⟨e, failed⟩ := anyM_of_givesUp first
      exact ⟨e, by rw [matching?, matchesCommand, failed, Run.throw_bind]⟩
    · obtain ⟨fits, later⟩ := (CommandPattern.givesUp_append.mp stuck).resolve_left first
      rw [matching?, matchesCommand, anyM_matches? first, fits, pure_bind]
      exact ih later

end

/-- Of the patterns that are known, taken by the priority of their formats, one gives up, and none
before it fits the command. -/
def GivesUpOn [Host] (g : Registry) (command : String) : Prop :=
  Command.normalize command ≠ "" ∧
    CommandPattern.GivesUp (Command.normalize command) (g.ranked.flatMap (·.profile.commands))

/-- The first format by priority with a pattern that fits a command. -/
def fitting? [Host] (g : Registry) (command : String) : Option Registration :=
  let command := Command.normalize command
  if command.isEmpty then none else g.ranked.find? (·.profile.commands.any (·.fits command))

namespace Consistent

variable [Host] {g : Registry}

/-- The look-up for a command answers, unless a pattern gives up before one fits. -/
theorem byCommand_eq_fitting? (valid : g.Consistent) {command : String}
    (free : ¬g.GivesUpOn command) : g.byCommand command = pure (g.fitting? command) := by
  rw [valid.byCommand_eq_matching?, fitting?]
  split
  · rfl
  next filled =>
    refine matching?_eq_find? fun stuck => free ⟨?_, stuck⟩
    simpa [String.isEmpty_iff] using filled

theorem byCommand_of_givesUpOn (valid : g.Consistent) {command : String}
    (stuck : g.GivesUpOn command) : ∃ e, g.byCommand command = throw (.pattern e) := by
  obtain ⟨filled, stuck⟩ := stuck
  have filled : (Command.normalize command).isEmpty = false := by
    simpa [String.isEmpty_iff] using filled
  rw [valid.byCommand_eq_matching?, filled]
  exact matching?_of_givesUp stuck

theorem not_givesUpOn (valid : g.Consistent)
    (compiling : ∀ r ∈ g.entries, ∀ p ∈ r.profile.commands, p.Compiles) (command : String) :
    ¬g.GivesUpOn command := by
  rintro ⟨-, stuck⟩
  refine CommandPattern.not_givesUp (fun p listed => ?_) stuck
  obtain ⟨r, member, own⟩ := List.mem_flatMap.mp listed
  exact compiling r ((mem_ranked valid).mp member) p own

end Consistent

theorem standard_commands_plain [Host] :
    ∀ r ∈ standard.entries, ∀ p ∈ r.profile.commands, p.IsPlain :=
  forall_standard (p := fun q => ∀ p ∈ q.commands, p.IsPlain) (by decide)

/-- With the formats that are always known, the look-up for a command answers. -/
theorem byCommand_standard [Host] (command : String) :
    standard.byCommand command = pure (standard.fitting? command) :=
  standard_standing.consistent.byCommand_eq_fitting? (standard_standing.consistent.not_givesUpOn
    (fun r member p known => (standard_commands_plain r member p known).compiles) command)

theorem fitting?_eq_some [Host] {g : Registry} (valid : g.Consistent) {command : String}
    {r : Registration} (fitting : g.fitting? command = some r) :
    r ∈ g.entries ∧ r.profile.commands.any (·.fits (Command.normalize command)) = true := by
  simp only [fitting?] at fitting
  split at fitting
  · cases fitting
  · have fits := List.find?_some fitting
    exact ⟨(mem_ranked valid).mp (List.mem_of_find?_eq_some fitting), fits⟩

theorem fitting?_isSome [Host] {g : Registry} (valid : g.Consistent) {command : String}
    (filled : (Command.normalize command).isEmpty = false)
    (fits : ∃ r ∈ g.entries,
      r.profile.commands.any (·.fits (Command.normalize command)) = true) :
    (g.fitting? command).isSome = true := by
  obtain ⟨r, member, fits⟩ := fits
  simp only [fitting?, filled, Bool.false_eq_true, if_false, List.find?_isSome]
  exact ⟨r, (mem_ranked valid).mpr member, fits⟩

end Registry

end BuildLog
