import BuildLog.Proofs.CiJob.Conservation
import BuildLog.Proofs.Format.Quoting
import BuildLog.Proofs.Line.Joining
import BuildLog.Proofs.Registry.Commands
import Mathlib.Data.List.Nodup

/-! Where the events of a step's output come from. The output is what lines of the log hold behind
their timestamps, without the lines that are no output. It is joined, cut into lines again and
numbered anew by the format that reads it; what is told about a line of the output is then told
about the line of the log that it came from. -/
namespace BuildLog.Format.CiJob

open Line (IsUnbroken)
open Text

theorem dropShape?_suffix {shape cs rest : List Char} (found : dropShape? shape cs = some rest) :
    rest <:+ cs := by
  fun_induction dropShape? shape cs with
  | case1 cs =>
    obtain rfl := Option.some.inj found
    exact List.suffix_rfl
  | case2 s shape c cs agrees ih => exact (ih found).trans (List.suffix_cons c cs)
  | case3 => cases found
  | case4 => cases found

theorem dropFraction_suffix (cs : List Char) : dropFraction cs <:+ cs := by
  unfold dropFraction
  split
  next rest =>
    split
    · exact (List.dropWhile_suffix _).trans (List.suffix_cons _ _)
    · exact List.suffix_rfl
  next => exact List.suffix_rfl

theorem dropStart?_suffix {beginning cs rest : List Char}
    (found : dropStart? beginning cs = some rest) : rest <:+ cs := by
  unfold dropStart? at found
  split at found
  · obtain rfl := Option.some.inj found
    exact List.drop_suffix _ _
  · cases found

theorem withoutTimestamp_suffix (line : String) :
    (withoutTimestamp line).toList <:+ line.toList := by
  unfold withoutTimestamp
  cases found : (do
    let rest ← dropShape? "0000-00-00T00:00:00".toList line.toList
    dropStart? ['Z', ' '] (dropFraction rest)) with
  | none => exact List.suffix_rfl
  | some rest =>
    obtain ⟨behind, shaped, ended⟩ := Option.bind_eq_some_iff.mp found
    simp only [Option.map_some, Option.getD_some, String.toList_ofList]
    exact (dropStart?_suffix ended).trans ((dropFraction_suffix _).trans (dropShape?_suffix shaped))

theorem mem_entries {limit : Int} {content : String} {e : Entry}
    (member : e ∈ entries limit content) :
    e.line ∈ Line.read limit content ∧ e.text = withoutTimestamp e.line.text := by
  obtain ⟨line, inside, rfl⟩ := List.mem_map.mp member
  exact ⟨inside, rfl⟩

theorem entries_isUnbroken {limit : Int} {content : String} {e : Entry}
    (member : e ∈ entries limit content) : IsUnbroken e.text.toList := by
  obtain ⟨inside, text⟩ := mem_entries member
  rw [text]
  exact fun c kept => Line.read_isUnbroken inside c ((withoutTimestamp_suffix _).mem kept)

def Ascends (es : List Entry) : Prop := es.Pairwise fun a b => a.line.number < b.line.number

theorem entries_ascends (limit : Int) (content : String) : Ascends (entries limit content) :=
  List.pairwise_map.mpr (Line.read_ascends limit content)

def Entry.isHeader (e : Entry) : Bool :=
  match e.role with
  | .header _ => true
  | _ => false

/-- A step's output is part of the lines before the next header. -/
theorem outputUntilHeader_sublist (inGroup : Bool) (es : List Entry) :
    (outputUntilHeader inGroup es).Sublist
      ((es.takeWhile (!·.isHeader)).map fun e => (e.line.number, e.text)) := by
  induction es generalizing inGroup with
  | nil => exact List.Sublist.slnil
  | cons e rest ih =>
    rw [outputUntilHeader]
    cases role : e.role with
    | header command => exact List.nil_sublist _
    | groupEnd =>
      rw [List.takeWhile_cons_of_pos (by simp [Entry.isHeader, role])]
      exact (ih false).cons _
    | remark kind message =>
      rw [List.takeWhile_cons_of_pos (by simp [Entry.isHeader, role])]
      exact (ih inGroup).cons _
    | output =>
      rw [List.takeWhile_cons_of_pos (by simp [Entry.isHeader, role])]
      cases inGroup with
      | true => exact (ih true).cons _
      | false => exact (ih false).cons_cons _

/-- The first step begins with the first header. -/
theorem firstLine_of_head {es : List Entry} {s : Step} (first : (steps es)[0]? = some s) :
    ∃ header ∈ es.dropWhile (!·.isHeader), s.firstLine = header.line.number := by
  fun_induction steps es with
  | case1 => cases first
  | case2 e rest command role ih =>
    obtain rfl := Option.some.inj first
    exact ⟨e, by simp [Entry.isHeader, role], rfl⟩
  | case3 e rest role ih =>
    have passed : e.isHeader = false := by
      unfold Entry.isHeader
      split
      next command header => exact absurd header (role command)
      next => rfl
    simpa [passed] using ih first

/-- The output of a step stands in lines between its header and the next. -/
theorem mem_output {es : List Entry} (ascends : Ascends es) {i : Nat} {s : Step}
    (step : (steps es)[i]? = some s) {p : Nat × String} (member : p ∈ s.output) :
    (∃ e ∈ es, p = (e.line.number, e.text)) ∧ s.firstLine < p.1 ∧
      ∀ next, (steps es)[i + 1]? = some next → p.1 < next.firstLine := by
  fun_induction steps es generalizing i with
  | case1 => cases step
  | case2 e rest command role ih =>
    obtain ⟨ahead, later⟩ := List.pairwise_cons.mp ascends
    cases i with
    | succ i =>
      obtain ⟨⟨d, inside, same⟩, between⟩ := ih later step
      exact ⟨⟨d, by simp [inside], same⟩, between⟩
    | zero =>
      obtain rfl := Option.some.inj step
      obtain ⟨d, before, rfl⟩ :=
        List.mem_map.mp ((outputUntilHeader_sublist true rest).mem member)
      have inside : d ∈ rest := (List.takeWhile_sublist _).mem before
      refine ⟨⟨d, by simp [inside], rfl⟩, ahead d inside, fun next follows => ?_⟩
      -- the next step is the first of the rest, where the output stands before any header
      obtain ⟨header, behind, begins⟩ := firstLine_of_head follows
      rw [begins]
      rw [← List.takeWhile_append_dropWhile (p := (!·.isHeader)) (l := rest)] at later
      exact (List.pairwise_append.mp later).2.2 d before header behind
  | case3 e rest role ih =>
    obtain ⟨⟨d, inside, same⟩, between⟩ := ih (List.pairwise_cons.mp ascends).2 step
    exact ⟨⟨d, by simp [inside], same⟩, between⟩

/-- A line of the output leads back to its line of the log. -/
theorem lineInLog_eq {s : Step} {i number : Nat} {text : String}
    (place : s.output[i]? = some (number, text)) : s.lineInLog ((i + 1 : Nat) : Int) = number := by
  have counted : ¬((i + 1 : Nat) : Int) < 1 := by omega
  have index : ((i + 1 : Nat) : Int).toNat - 1 = i := by omega
  rw [Step.lineInLog, if_neg counted, index, place]
  rfl

/-- An event that quotes a line of the output quotes, seen from the log, what the output has from
the line that it leads back to. -/
theorem placed_quotes {s : Step} (unbroken : ∀ p ∈ s.output, IsUnbroken p.2.toList) {e : Event}
    {line : Line} (member : line ∈ Line.read Line.defaultLimit s.text) (quotes : e.Quotes line) :
    ∃ p ∈ s.output, (placed s e).Quotes (Line.capped 2000 p.1 p.2.toList) := by
  have unbroken : ∀ u ∈ s.output.map (·.2), IsUnbroken u.toList := List.forall_mem_map.mpr unbroken
  obtain ⟨i, text, place, rfl⟩ := Line.mem_read_joined unbroken member
  rw [List.getElem?_map] at place
  obtain ⟨⟨number, text⟩, origin, rfl⟩ := Option.map_eq_some_iff.mp place
  obtain ⟨first, last, words⟩ := quotes
  rw [Line.capped_number] at first last
  refine ⟨(number, text), List.mem_of_getElem? origin, ?_, ?_, ?_⟩
  · rw [Line.capped_number, ← lineInLog_eq origin, ← first]
    rfl
  · rw [Line.capped_number, ← lineInLog_eq origin, ← last]
    rfl
  · rw [Line.capped_text 2000 number (i + 1)]
    exact words

/-- An event without a line gets none. -/
theorem located_of_placed {s : Step} {e : Event} (located : 0 < (placed s e).firstLine) :
    0 < e.firstLine := by
  have located : 0 < s.lineInLog e.firstLine := located
  by_contra apart
  rw [Step.lineInLog, if_pos (by omega)] at located
  exact apart located

theorem YieldsAll.exists_yields {byCommand : Option (String → Run (Option Delegate))}
    {told told' : Array Notice} {steps : List Step} {found : List (List Event)}
    (all : YieldsAll byCommand told steps found told') {i : Nat} {s : Step} {events : List Event}
    (step : steps[i]? = some s) (yielded : found[i]? = some events) :
    ∃ before after, Yields byCommand s before events after := by
  induction all generalizing i with
  | nil => cases step
  | cons first later ih =>
    cases i with
    | succ i => exact ih step yielded
    | zero =>
      obtain rfl := Option.some.inj step
      obtain rfl := Option.some.inj yielded
      exact ⟨_, _, first⟩

/-- What a step yields was read by the format that its command points at. -/
theorem Yields.exists_read [Host] {g : Registry} {limit : Int} {s : Step} {events : List Event}
    {told told' : Array Notice}
    (yields : Yields (g.surroundings limit).byCommand s told events told') {r : Registration}
    (points : g.byCommand s.command = pure (some r)) {e : Event} (member : e ∈ events) :
    ∃ read, (r.format.parse (r.profile.family.payload s.text)).Returns read ∧
      ∃ f ∈ read, e = placed s f := by
  cases yields with
  | alone | silent | unknown | gaveUp => cases member
  | read aided output pointed done =>
    obtain rfl := Option.some.inj aided
    simp only [Run.bind_apply, points, Run.pure_apply] at pointed
    cases pointed
    obtain ⟨f, inside, rfl⟩ := List.mem_map.mp member
    exact ⟨_, ⟨_, _, done⟩, f, inside, rfl⟩

def quoting : List String := ["gcc_text", "flake8_text", "pytest_text"]

/-- An event with a line quotes it; the summary of a report has none. -/
theorem exists_quoted [Host] {f : Format} (known : f ∈ builtins)
    (named : f.profile.format ∈ quoting) {text : String} {events : List Event}
    (done : (f.parse (f.profile.family.payload text)).Returns events) {e : Event}
    (member : e ∈ events) (located : 0 < e.firstLine) :
    ∃ line ∈ Line.read Line.defaultLimit text, e.Quotes line := by
  simp only [quoting, List.mem_cons, List.not_mem_nil, or_false] at named
  obtain compiler | flake8 | pytest := named
  · obtain rfl :=
      Registry.builtin_eq_of_name (g := CompilerText.format) known (by simp [builtins]) compiler
    exact (CompilerText.parse_quotes done).exists_quoted member
  · obtain rfl := Registry.builtin_eq_of_name (g := Flake8.format) known (by simp [builtins]) flake8
    obtain ⟨findings, rfl, quotes⟩ := Flake8.parse_quotes done
    obtain finding | last := List.mem_append.mp member
    · exact quotes.exists_quoted finding
    · obtain rfl := List.mem_singleton.mp last
      have apart : (Flake8.summary findings).firstLine = -1 := rfl
      omega
  · obtain rfl := Registry.builtin_eq_of_name (g := Pytest.format) known (by simp [builtins]) pytest
    exact (Pytest.parse_quotes done).exists_quoted member

/-- With the formats that are always known, reading a job's log always ends with events. If one of
the quoting formats finds an event with a line in a step's output, the event quotes a line of the
log between the step's header and the next, without its timestamp. -/
theorem parse_standard_locates [Host] (limit : Int) (content : String) (told : Array Notice) :
    let es := entries limit content
    ∃ found told' events,
      parse (Registry.standard.surroundings limit) content told = (.ok events, told') ∧
      YieldsAll (Registry.standard.surroundings limit).byCommand told (steps es) found told' ∧
      IsArrangement (produced (steps es) found ++ remarks "" es) events ∧
      ∀ (i : Nat) (s : Step) (yielded : List Event) (r : Registration),
        (steps es)[i]? = some s → found[i]? = some yielded →
        (Registry.standard.byCommand s.command).Returns (some r) →
        r.profile.format ∈ quoting →
        ∀ e ∈ yielded, 0 < e.firstLine →
          ∃ line ∈ Line.read limit content,
            e.Quotes (Line.capped 2000 line.number (withoutTimestamp line.text).toList) ∧
            s.firstLine < line.number ∧
            ∀ next, (steps es)[i + 1]? = some next → line.number < next.firstLine := by
  intro es
  obtain ⟨found, told', yields, done⟩ |
      ⟨fault, told', -, step, -, before, -, lookup, aided, failed⟩ :=
    parse_cases (Registry.standard.surroundings limit) content told
  case inr =>
    obtain rfl := Option.some.inj aided
    simp only [Run.bind_apply, Registry.byCommand_standard, Run.pure_apply] at failed
    -- the look-up has answered
    cases failed
  refine ⟨found, told', _, done, yields, isArrangement_numbered _, ?_⟩
  intro i s yielded r step here points named e member located
  have ascends : Ascends es := entries_ascends limit content
  have lookup := Registry.byCommand_standard s.command
  rw [lookup] at points
  have fitting := Run.returns_pure.mp points
  rw [fitting] at lookup
  obtain ⟨before, after, yields⟩ := yields.exists_yields step here
  obtain ⟨read, done, f, inside, rfl⟩ := yields.exists_read lookup member
  have known : r.format ∈ builtins := Registry.mem_ofFormats
    (Registry.fitting?_eq_some Registry.standard_standing.consistent fitting).1
  obtain ⟨line, present, quotes⟩ :=
    exists_quoted known named done inside (located_of_placed located)
  have unbroken : ∀ p ∈ s.output, IsUnbroken p.2.toList := by
    intro p output
    obtain ⟨⟨d, entry, rfl⟩, -⟩ := mem_output ascends step output
    exact entries_isUnbroken entry
  -- from the line that the format has read back to the output, and from there to the log
  obtain ⟨p, output, quotes⟩ := placed_quotes unbroken present quotes
  obtain ⟨⟨d, entry, rfl⟩, between⟩ := mem_output ascends step output
  obtain ⟨inLog, text⟩ := mem_entries entry
  exact ⟨d.line, inLog, text ▸ quotes, between⟩

theorem IsArrangement.exists_mem {made events : List Event} (arranged : IsArrangement made events)
    {e : Event} (member : e ∈ made) : ∃ d ∈ events, withoutId d = withoutId e :=
  List.mem_map.mp (arranged.complete.mem_iff.mpr (List.mem_map_of_mem member))

/-- A job in whose output a remark stands between two tests. -/
def remarked : String :=
  "##[group]Run pytest\n##[endgroup]\na.py::t PASSED\n##[warning]w\na.py::u FAILED"

def remarkedStep : Step := ⟨"pytest", 1, [(3, "a.py::t PASSED"), (5, "a.py::u FAILED")]⟩

theorem steps_remarked : steps (entries 2000 remarked) = [remarkedStep] := by rfl

theorem byCommand_remarkedStep :
    ∃ r, Registry.standard.byCommand remarkedStep.command = pure (some r) ∧
      r.format = Pytest.format := by
  have valid := Registry.standard_standing.consistent
  have filled : (Command.normalize remarkedStep.command).isEmpty = false := by decide +kernel
  have fits : ∃ r ∈ Registry.standard.entries,
      r.profile.commands.any (·.fits (Command.normalize remarkedStep.command)) = true := by
    decide +kernel
  have only : ∀ r ∈ Registry.standard.entries,
      r.profile.commands.any (·.fits (Command.normalize remarkedStep.command)) = true →
      r.profile.format = Pytest.format.profile.format := by decide +kernel
  obtain ⟨r, fitting⟩ := Option.isSome_iff_exists.mp (Registry.fitting?_isSome valid filled fits)
  obtain ⟨member, fits⟩ := Registry.fitting?_eq_some valid fitting
  exact ⟨r, by rw [Registry.byCommand_standard, fitting],
    Registry.builtin_eq_of_name (Registry.mem_ofFormats member) (by simp [builtins])
      (only r member fits)⟩

/-- The second test stands in the second line of the output. -/
theorem parse_remarkedStep :
    ∃ read told', Pytest.format.parse remarkedStep.text #[] = (.ok read, told') ∧
      ∃ f ∈ read, f.test = "u" ∧ f.firstLine = 2 := by
  have fields : (Pytest.format.parse remarkedStep.text #[]).1.toOption.map
      (·.map fun f => (f.test, f.firstLine)) = some [("t", 1), ("u", 2)] := by decide +kernel
  rcases done : Pytest.format.parse remarkedStep.text #[] with ⟨fault | read, told'⟩
  · rw [done] at fields
    cases fields
  · rw [done] at fields
    have fields : (read.map fun f => (f.test, f.firstLine)) = [("t", 1), ("u", 2)] :=
      Option.some.inj fields
    have member : ("u", (2 : Int)) ∈ read.map fun f => (f.test, f.firstLine) := by simp [fields]
    obtain ⟨f, inside, same⟩ := List.mem_map.mp member
    obtain ⟨test, line⟩ := Prod.mk.inj same
    exact ⟨read, told', rfl, f, inside, test, line⟩

/-- The remark is no part of the output, but counts as a line of the log. -/
theorem parse_standard_locates_remarked :
    ∃ told' events,
      parse (Registry.standard.surroundings 2000) remarked #[] = (.ok events, told') ∧
      ∃ e ∈ events, e.test = "u" ∧ ∃ line ∈ Line.read 2000 remarked, line.number = 5 ∧
        e.Quotes (Line.capped 2000 5 (withoutTimestamp line.text).toList) := by
  obtain ⟨found, told', events, done, yields, arranged, locates⟩ :=
    parse_standard_locates 2000 remarked #[]
  rw [steps_remarked] at yields arranged locates
  obtain ⟨r, points, pytest⟩ := byCommand_remarkedStep
  obtain ⟨read, after, answer, f, inside, test, second⟩ := parse_remarkedStep
  cases yields with
  | @cons _ _ _ _ _ yielded _ first later =>
  cases later
  have member : placed remarkedStep f ∈ yielded := by
    have determined : delegated
        (fun command => do return (← Registry.standard.byCommand command).map (·.format.delegate))
        remarkedStep #[] = (.ok yielded, told') := first.delegated_eq
    have output : remarkedStep.output ≠ [] := by decide
    have reads : r.format.delegate.parse (r.format.delegate.family.payload remarkedStep.text) #[] =
        (.ok read, after) := by
      rw [pytest]
      exact answer
    simp only [delegated_apply _ output, Run.bind_apply, points, Run.pure_apply, Option.map_some,
      reads] at determined
    cases determined
    exact List.mem_map_of_mem inside
  have line : (placed remarkedStep f).firstLine = 5 := by
    have fifth : remarkedStep.lineInLog 2 = 5 := by decide
    rw [← fifth, ← second]
    rfl
  have points : (Registry.standard.byCommand remarkedStep.command).Returns (some r) :=
    ⟨#[], #[], by rw [points]; rfl⟩
  have named : r.profile.format ∈ quoting := by
    rw [Registration.profile, pytest]
    decide
  obtain ⟨quoted, present, quotes, -⟩ :=
    locates 0 remarkedStep yielded r rfl rfl points named _ member (by omega)
  have number : quoted.number = 5 := by
    have same := quotes.firstLine
    rw [Line.capped_number] at same
    omega
  have made : placed remarkedStep f ∈
      produced [remarkedStep] [yielded] ++ remarks "" (entries 2000 remarked) := by
    simp [produced, member]
  obtain ⟨e, kept, same⟩ := arranged.exists_mem made
  refine ⟨told', events, done, e, kept, ?_, quoted, present, number, ?_⟩
  · exact (congrArg Event.test same).trans test
  · rw [number] at quotes
    exact ⟨(congrArg Event.firstLine same).trans quotes.firstLine,
      (congrArg Event.lastLine same).trans quotes.lastLine,
      (congrArg Event.text same).trans quotes.text⟩

end BuildLog.Format.CiJob
