import BuildLog.Format.CiJob
import BuildLog.Proofs.Pattern.Reading
import BuildLog.Proofs.Registry.Commands
import BuildLog.Proofs.Run
import BuildLog.Proofs.Sorting
import Mathlib.Data.Prod.Lex

/-! What becomes of a job's log: of every step the events of its output and one that sums it up, of
every remark its own. None is lost and none comes twice, whatever the formats do that read the
output; they may give up, each for its step alone. But a command pattern that gives up, when the
format for a step is looked up, takes the whole log with it. -/
namespace BuildLog.Format.CiJob

open Sorting (IsRanking)

/-- `Yields byCommand s told events told'` says that with the notices `told` before, reading the
output of a step adds `events` to those of the job, and leaves `told'`. -/
inductive Yields (byCommand : Option (String → Run (Option Delegate))) (s : Step)
    (told : Array Notice) : List Event → Array Notice → Prop
  | alone (unaided : byCommand = none) : Yields byCommand s told [] told
  | silent (empty : s.output = []) : Yields byCommand s told [] told
  | unknown {lookup told'} (aided : byCommand = some lookup) (output : s.output ≠ [])
      (pointed : lookup s.command told = (.ok none, told')) : Yields byCommand s told [] told'
  | gaveUp {lookup d middle fault told'} (aided : byCommand = some lookup)
      (output : s.output ≠ []) (pointed : lookup s.command told = (.ok (some d), middle))
      (failed : d.parse (d.family.payload s.text) middle = (.error fault, told')) :
      Yields byCommand s told [] told'
  | read {lookup d middle events told'} (aided : byCommand = some lookup)
      (output : s.output ≠ []) (pointed : lookup s.command told = (.ok (some d), middle))
      (done : d.parse (d.family.payload s.text) middle = (.ok events, told')) :
      Yields byCommand s told (events.map (placed s)) told'

/-- The events that the outputs of steps yield, a list for each step, when they are read one after
another. -/
inductive YieldsAll (byCommand : Option (String → Run (Option Delegate))) :
    Array Notice → List Step → List (List Event) → Array Notice → Prop
  | nil {told} : YieldsAll byCommand told [] [] told
  | cons {told middle told' s rest events found} (first : Yields byCommand s told events middle)
      (later : YieldsAll byCommand middle rest found told') :
      YieldsAll byCommand told (s :: rest) (events :: found) told'

def LookupFails (byCommand : Option (String → Run (Option Delegate))) (s : Step)
    (told : Array Notice) (fault : Fault) (told' : Array Notice) : Prop :=
  s.output ≠ [] ∧ ∃ lookup, byCommand = some lookup ∧ lookup s.command told = (.error fault, told')

theorem delegated_apply (lookup : String → Run (Option Delegate)) {s : Step}
    (output : s.output ≠ []) (told : Array Notice) :
    delegated lookup s told =
      match lookup s.command told with
      | (.ok none, middle) => (.ok [], middle)
      | (.ok (some d), middle) =>
        match d.parse (d.family.payload s.text) middle with
        | (.ok events, told') => (.ok (events.map (placed s)), told')
        | (.error _, told') => (.ok [], told')
      | (.error fault, told') => (.error fault, told') := by
  have filled : s.output.isEmpty = false := by simpa using output
  simp only [delegated, filled, Bool.false_eq_true, if_false, Run.bind_apply]
  rcases lookup s.command told with ⟨fault | _ | d, middle⟩
  · rfl
  · rfl
  · simp only [Run.bind_apply, Run.orElse_apply]
    rcases d.parse (d.family.payload s.text) middle with ⟨fault | events, told'⟩ <;> rfl

/-- Reading a step's output fails only if the look-up does. -/
theorem delegated_cases (lookup : String → Run (Option Delegate)) (s : Step)
    (told : Array Notice) :
    (∃ events told', delegated lookup s told = (.ok events, told') ∧
      Yields (some lookup) s told events told') ∨
    ∃ fault told', delegated lookup s told = (.error fault, told') ∧
      LookupFails (some lookup) s told fault told' := by
  by_cases output : s.output = []
  · exact .inl ⟨[], told, by simp [delegated, output], .silent output⟩
  rw [delegated_apply lookup output]
  rcases pointed : lookup s.command told with ⟨fault | _ | d, middle⟩
  · exact .inr ⟨fault, middle, rfl, output, lookup, rfl, pointed⟩
  · exact .inl ⟨[], middle, rfl, .unknown rfl output pointed⟩
  · rcases done : d.parse (d.family.payload s.text) middle with ⟨fault | events, told'⟩
    · exact .inl ⟨[], told', by simp only [done], .gaveUp rfl output pointed done⟩
    · exact .inl ⟨_, told', by simp only [done], .read rfl output pointed done⟩

/-- What a step yields is determined. -/
theorem Yields.delegated_eq {lookup : String → Run (Option Delegate)} {s : Step}
    {told told' : Array Notice} {events : List Event}
    (yields : Yields (some lookup) s told events told') :
    delegated lookup s told = (.ok events, told') := by
  cases yields with
  | alone unaided => cases unaided
  | silent empty => simp [delegated, empty]
  | unknown aided output pointed =>
    obtain rfl := Option.some.inj aided
    rw [delegated_apply lookup output, pointed]
  | gaveUp aided output pointed failed =>
    obtain rfl := Option.some.inj aided
    simp only [delegated_apply lookup output, pointed, failed]
  | read aided output pointed done =>
    obtain rfl := Option.some.inj aided
    simp only [delegated_apply lookup output, pointed, done]

variable (byCommand : Option (String → Run (Option Delegate)))

theorem eventsOfStep_cases (s : Step) (told : Array Notice) :
    (∃ events told', eventsOfStep byCommand s told = (.ok (events ++ [summary s events]), told') ∧
      Yields byCommand s told events told') ∨
    ∃ fault told', eventsOfStep byCommand s told = (.error fault, told') ∧
      LookupFails byCommand s told fault told' := by
  cases byCommand with
  | none => exact .inl ⟨[], told, rfl, .alone rfl⟩
  | some lookup =>
    simp only [eventsOfStep, Run.bind_apply]
    obtain ⟨events, told', done, yields⟩ | ⟨fault, told', failed, fails⟩ :=
      delegated_cases lookup s told
    · exact .inl ⟨events, told', by rw [done]; rfl, yields⟩
    · exact .inr ⟨fault, told', by rw [failed], fails⟩

/-- The events of steps in the order in which they are made: those of a step's output, then the
one that sums the step up. -/
def produced (steps : List Step) (found : List (List Event)) : List Event :=
  (steps.zipWith (fun s events => events ++ [summary s events]) found).flatten

theorem flatMapM_eventsOfStep_cases (steps : List Step) (told : Array Notice) :
    (∃ found told', steps.flatMapM (eventsOfStep byCommand) told =
      (.ok (produced steps found), told') ∧ YieldsAll byCommand told steps found told') ∨
    ∃ fault told', steps.flatMapM (eventsOfStep byCommand) told = (.error fault, told') ∧
      ∃ s ∈ steps, ∃ before, LookupFails byCommand s before fault told' := by
  -- the notices told so far are handed on from step to step
  induction steps generalizing told with
  | nil => exact .inl ⟨[], told, rfl, .nil⟩
  | cons s rest ih =>
    simp only [List.flatMapM_cons, Run.bind_apply]
    obtain ⟨events, middle, done, yields⟩ | ⟨fault, told', failed, fails⟩ :=
      eventsOfStep_cases byCommand s told
    · obtain ⟨found, told', doneAll, later⟩ | ⟨fault, told', failed, t, member, before, fails⟩ :=
        ih middle
      · exact .inl ⟨events :: found, told', by simp [done, doneAll, produced], .cons yields later⟩
      · exact .inr ⟨fault, told', by simp [done, failed], t, by simp [member], before, fails⟩
    · exact .inr ⟨fault, told', by simp [failed], s, by simp, told, fails⟩

/-- An event belongs to its line, and a summary behind what else begins there. -/
def rank (e : Event) : ℤ ×ₗ Bool := toLex (e.firstLine, e.kind == .summary)

theorem isBefore_iff (a b : Event) : isBefore a b = true ↔ rank a ≤ rank b := by
  simp only [isBefore, rank, Prod.Lex.toLex_le_toLex, Bool.or_eq_true, Bool.and_eq_true,
    decide_eq_true_eq, beq_iff_eq, Bool.le_iff_imp, bne_iff_ne]
  tauto

theorem isBefore_ranking : IsRanking isBefore where
  trans a b c := by
    simp only [isBefore_iff]
    exact le_trans
  total a b := by
    rw [Bool.or_eq_true, isBefore_iff, isBefore_iff]
    exact le_total _ _

def withoutId (e : Event) : Event := { e with id := 0 }

/-- The same events in the order of their ranks, those of one rank as they were, and numbered. -/
structure IsArrangement (made events : List Event) : Prop where
  complete : (events.map withoutId).Perm (made.map withoutId)
  ordered : events.Pairwise fun a b => rank a ≤ rank b
  stable : ∀ r,
    (events.filter (rank · = r)).map withoutId = (made.filter (rank · = r)).map withoutId
  ids : events.map (·.id) = (List.range made.length).map fun i : Nat => (i : Int) + 1

theorem numbered_withoutId (l : List Event) : (numbered l).map withoutId = l.map withoutId := by
  apply List.ext_getElem <;> simp [numbered, withoutId]

theorem numbered_rank (l : List Event) : (numbered l).map rank = l.map rank := by
  apply List.ext_getElem <;> simp [numbered, rank]

theorem filter_rank_withoutId (l : List Event) (r : ℤ ×ₗ Bool) :
    (l.filter (rank · = r)).map withoutId = (l.map withoutId).filter (rank · = r) := by
  rw [List.filter_map]
  rfl

theorem isArrangement_numbered (made : List Event) :
    IsArrangement made (numbered (made.mergeSort isBefore)) where
  complete := by
    rw [numbered_withoutId]
    exact (List.mergeSort_perm made isBefore).map withoutId
  ordered := by
    have sorted := Sorting.pairwise_mergeSort isBefore_ranking made
    simp only [isBefore_iff] at sorted
    rwa [← List.pairwise_map (f := rank) (R := (· ≤ ·)), numbered_rank, List.pairwise_map]
  stable r := by
    have comparable (a b : Event) (ha : decide (rank a = r) = true)
        (hb : decide (rank b = r) = true) : isBefore a b = true := by
      rw [isBefore_iff, of_decide_eq_true ha, of_decide_eq_true hb]
    rw [filter_rank_withoutId, numbered_withoutId, ← filter_rank_withoutId,
      Sorting.filter_mergeSort isBefore_ranking _ comparable]
  ids := by
    apply List.ext_getElem <;> simp [numbered]

/-- `e` sums up a step whose output yields the given events: it fails exactly if one of them is an
error or a failure, and passes otherwise. -/
structure SumsUp (s : Step) (events : List Event) (e : Event) : Prop where
  kind : e.kind = .summary
  scope : e.scope = s.command
  line : e.firstLine = s.firstLine
  fails : e.status = some .fail ↔ ∃ f ∈ events, f.status = some .error ∨ f.status = some .fail
  passes : e.status = some .pass ↔ ¬∃ f ∈ events, f.status = some .error ∨ f.status = some .fail

theorem summary_sumsUp (s : Step) (events : List Event) : SumsUp s events (summary s events) := by
  have failure : events.any isFailure = true ↔
      ∃ f ∈ events, f.status = some .error ∨ f.status = some .fail := by
    simp [isFailure]
  refine ⟨rfl, rfl, rfl, ?_, ?_⟩ <;> rw [← failure]
  · cases failed : events.any isFailure <;> simp [summary, failed, Event.withVerdict]
  · cases failed : events.any isFailure <;> simp [summary, failed, Event.withVerdict]

/-- Reading a job's log fails only if the look-up for a step's command does. -/
theorem parse_cases (s : Surroundings) (content : String) (told : Array Notice) :
    let es := entries s.limit content
    (∃ found told', YieldsAll s.byCommand told (steps es) found told' ∧
      parse s content told =
        (.ok (numbered ((produced (steps es) found ++ remarks "" es).mergeSort isBefore)), told')) ∨
    ∃ fault told', parse s content told = (.error fault, told') ∧
      ∃ step ∈ steps es, ∃ before, LookupFails s.byCommand step before fault told' := by
  intro es
  have unfolded : parse s content told =
      ((steps es).flatMapM (eventsOfStep s.byCommand) >>= fun events =>
        pure (numbered ((events ++ remarks "" es).mergeSort isBefore))) told := rfl
  rw [unfolded, Run.bind_apply]
  obtain ⟨found, told', done, yields⟩ | ⟨fault, told', failed, fails⟩ :=
    flatMapM_eventsOfStep_cases s.byCommand (steps es) told
  · rw [done]
    exact .inl ⟨found, told', yields, rfl⟩
  · rw [failed]
    exact .inr ⟨fault, told', rfl, fails⟩

/-- Reading a job's log ends with the events that the outputs of its steps yield, one event that
sums up each step, and the remarks, arranged and numbered. -/
def Conserves (s : Surroundings) (content : String) (told : Array Notice) : Prop :=
  let es := entries s.limit content
  ∃ found told' events, parse s content told = (.ok events, told') ∧
    YieldsAll s.byCommand told (steps es) found told' ∧
    (∀ p ∈ (steps es).zip found, SumsUp p.1 p.2 (summary p.1 p.2)) ∧
    IsArrangement (produced (steps es) found ++ remarks "" es) events

theorem conserves_or_fails (s : Surroundings) (content : String) (told : Array Notice) :
    Conserves s content told ∨
    ∃ fault told', parse s content told = (.error fault, told') ∧
      ∃ step ∈ steps (entries s.limit content), ∃ before,
        LookupFails s.byCommand step before fault told' := by
  obtain ⟨found, told', yields, done⟩ | failed := parse_cases s content told
  · exact .inl ⟨found, told', _, done, yields, fun p _ => summary_sumsUp p.1 p.2,
      isArrangement_numbered _⟩
  · exact .inr failed

section

variable [Host] {g : Registry} {limit : Int} {s : Step} {told told' : Array Notice}

theorem LookupFails.givesUpOn (valid : g.Consistent) {fault : Fault}
    (fails : LookupFails (g.surroundings limit).byCommand s told fault told') :
    s.output ≠ [] ∧ g.GivesUpOn s.command ∧ ∃ e, fault = .pattern e := by
  obtain ⟨output, lookup, aided, failed⟩ := fails
  obtain rfl := Option.some.inj aided
  dsimp only at failed
  by_cases stuck : g.GivesUpOn s.command
  · obtain ⟨e, thrown⟩ := valid.byCommand_of_givesUpOn stuck
    rw [thrown] at failed
    cases failed
    exact ⟨output, stuck, e, rfl⟩
  · rw [valid.byCommand_eq_fitting? stuck] at failed
    cases failed

theorem Yields.not_givesUpOn (valid : g.Consistent) {events : List Event}
    (yields : Yields (g.surroundings limit).byCommand s told events told')
    (output : s.output ≠ []) : ¬g.GivesUpOn s.command := by
  intro stuck
  obtain ⟨e, thrown⟩ := valid.byCommand_of_givesUpOn stuck
  have read := yields.delegated_eq
  simp only [delegated_apply _ output, thrown] at read
  cases read

end

theorem YieldsAll.exists_of_mem {byCommand : Option (String → Run (Option Delegate))}
    {told told' : Array Notice} {steps : List Step} {found : List (List Event)}
    (all : YieldsAll byCommand told steps found told') {s : Step} (member : s ∈ steps) :
    ∃ before events after, Yields byCommand s before events after := by
  induction all with
  | nil => cases member
  | cons first later ih =>
    rcases List.mem_cons.mp member with rfl | behind
    · exact ⟨_, _, _, first⟩
    · exact ih behind

/-- Without a registry, and with any that operations lead to, reading a job's log loses nothing,
whatever its formats do; but with a registry it gives up if the look-up for the command of some
step with output does. -/
theorem parse_conserves [Host] (ops : List Registry.Operation) (limit : Int) (content : String)
    (told : Array Notice) :
    let g := Registry.empty.performAll ops
    let stuck := ∃ s ∈ steps (entries limit content), s.output ≠ [] ∧ g.GivesUpOn s.command
    Conserves { limit } content told ∧
    (¬stuck → Conserves (g.surroundings limit) content told) ∧
    (stuck → ∃ e told',
      parse (g.surroundings limit) content told = (.error (.pattern e), told')) := by
  intro g stuck
  have valid : g.Consistent := Registry.performAll_consistent Registry.empty_consistent ops
  refine ⟨?_, fun free => ?_, ?_⟩
  · obtain whole | ⟨_, _, -, _, -, _, -, _, aided, -⟩ := conserves_or_fails { limit } content told
    · exact whole
    · cases aided
  · obtain whole | ⟨_, _, -, s, member, _, fails⟩ :=
      conserves_or_fails (g.surroundings limit) content told
    · exact whole
    · obtain ⟨output, gaveUp, -⟩ := fails.givesUpOn valid
      exact absurd ⟨s, member, output, gaveUp⟩ free
  · rintro ⟨s, member, output, gaveUp⟩
    obtain ⟨found, _, _, -, yields, -⟩ | ⟨fault, told', failed, _, -, _, fails⟩ :=
      conserves_or_fails (g.surroundings limit) content told
    · obtain ⟨_, _, _, read⟩ := yields.exists_of_mem member
      exact absurd gaveUp (read.not_givesUpOn valid output)
    · obtain ⟨-, -, e, rfl⟩ := fails.givesUpOn valid
      exact ⟨e, told', failed⟩

/-- A character repeated more often than any pattern may have it. -/
def countless : CommandPattern := ⟨"a\x7b4294967295\x7d", .regexp⟩

def countlessFormat : Format where
  profile := { format := "f", priority := 90, commands := [countless] }
  accepts _ := pure false
  parse _ := pure []

def countlessOps : List Registry.Operation :=
  (builtins ++ [countlessFormat]).zipIdx.map fun (f, serial) => .add ⟨serial, f⟩

theorem read_countless [Host] : Pattern.read countless.pattern = .error .countTooGreat := by
  let counted : List Pattern.Token := "4294967295\x7d".toList.map .char
  have symbols : Pattern.tokens countless.pattern.toList =
      (.char 'a' :: .char '\x7b' :: counted, false) := by decide
  have letter : (Pattern.State.start.step (.char 'a')).outcome (.char '\x7b' :: counted) =
      .ok (Pattern.State.start.pushCode 97, .char '\x7b' :: counted) := rfl
  have count : ((Pattern.State.start.pushCode 97).step (.char '\x7b')).outcome counted =
      .error (.other .countTooGreat true) := rfl
  have failed : Pattern.readTokens.outcome (.char 'a' :: .char '\x7b' :: counted) =
      .error (.other .countTooGreat true) :=
    (Pattern.resume_cons letter).trans (Pattern.resume_error count)
  rw [Pattern.read_eq, symbols, failed]
  simp only [Pattern.Stop.toError, Bool.false_and, Bool.false_eq_true, if_false]

theorem countless_overtaxes : ¬countless.Compiles := by
  have read : Command.compile? .regexp countless.pattern = .error .countTooGreat := by
    simp only [Command.compile?, read_countless]
  intro compiles
  obtain ⟨compiled, answer⟩ := compiles (by decide)
  change Command.compile? .regexp countless.pattern = _ at answer
  rw [read] at answer
  cases answer

theorem givesUpOn_countless : (Registry.empty.performAll countlessOps).GivesUpOn "x" := by
  have valid : (Registry.empty.performAll countlessOps).Consistent :=
    Registry.performAll_consistent Registry.empty_consistent _
  have profiles : (Registry.empty.performAll countlessOps).entries.map Registration.profile =
      Registry.builtinProfiles ++ [countlessFormat.profile] := rfl
  have declining : ∀ q ∈ Registry.builtinProfiles ++ [countlessFormat.profile],
      ∀ p ∈ q.commands, p.fits "x" = false := by decide +kernel
  have normal : Command.normalize "x" = "x" := by decide
  rw [Registry.GivesUpOn, normal]
  refine ⟨by decide, CommandPattern.givesUp_of_mem (p := countless) ?_ ?_ countless_overtaxes⟩
  · intro p listed
    obtain ⟨r, ranked, own⟩ := List.mem_flatMap.mp listed
    have member := (Registry.mem_ranked valid).mp ranked
    exact declining r.profile (profiles ▸ List.mem_map_of_mem member) p own
  · have member : (⟨12, countlessFormat⟩ : Registration) ∈
        (Registry.empty.performAll countlessOps).entries := List.mem_of_getElem? (i := 12) rfl
    exact List.mem_flatMap.mpr ⟨_, (Registry.mem_ranked valid).mpr member, by decide⟩

def greeting : String := "##[group]Run x\n##[endgroup]\nhello\n"

theorem steps_greeting : steps (entries 2000 greeting) = [⟨"x", 1, [(3, "hello")]⟩] := by rfl

/-- A pattern of one format, which has nothing to do with the log, keeps all of it from being
read. -/
theorem parse_conserves_countless :
    Conserves {} greeting #[] ∧
    ∃ e told', parse ((Registry.empty.performAll countlessOps).surroundings 2000) greeting #[] =
      (.error (.pattern e), told') := by
  obtain ⟨alone, -, fails⟩ := parse_conserves countlessOps 2000 greeting #[]
  refine ⟨alone, fails ⟨⟨"x", 1, [(3, "hello")]⟩, ?_, by decide, givesUpOn_countless⟩⟩
  simp [steps_greeting]

end BuildLog.Format.CiJob
