import BuildLog.Proofs.CiJob.Roles

/-! How a job's log is taken apart. It is read line after line, with the step that is being read and
whether the group of its header is still open; what is known after some lines gives the steps and
the remarks of these lines. Every line is accounted for: it begins a step, it ends a group, it is a
remark, it is output of exactly the step that it stands behind, or it belongs to nothing because no
step has begun or the group of its header is still open. -/
namespace BuildLog.Format.CiJob

/-- A step as it is read, with the lines of its output and their numbers side by side. -/
structure Section where
  command : String
  firstLine : Nat
  output : List String := []
  numbers : List Nat := []

namespace Section

def add (c : Section) (e : Entry) : Section :=
  { c with output := c.output ++ [e.text], numbers := c.numbers ++ [e.line.number] }

def step (c : Section) : Step := ⟨c.command, c.firstLine, c.numbers.zip c.output⟩

end Section

structure Splitting where
  closed : List Section := []
  current : Option Section := none
  inGroup : Bool := false
  remarks : List Event := []

namespace Splitting

def sections (s : Splitting) : List Section := s.closed ++ s.current.toList

def command (s : Splitting) : String := (s.current.map (·.command)).getD ""

def next (s : Splitting) (e : Entry) : Splitting :=
  match e.role with
  | .header command =>
    { s with
      closed := s.sections
      current := some ⟨command, e.line.number, [], []⟩
      inGroup := true }
  | .groupEnd => { s with inGroup := false }
  | .remark kind message =>
    { s with remarks := s.remarks ++ [remarkEvent s.command e.line kind message] }
  | .output => if s.inGroup then s else { s with current := s.current.map (·.add e) }

def of (es : List Entry) : Splitting := es.foldl next {}

def IsEven (s : Splitting) : Prop := ∀ c ∈ s.sections, c.output.length = c.numbers.length

theorem next_isEven {s : Splitting} (even : s.IsEven) (e : Entry) : (s.next e).IsEven := by
  unfold next
  split
  next command header =>
    intro c member
    obtain before | new := List.mem_append.mp member
    · exact even c before
    · cases List.mem_singleton.mp new
      rfl
  next => exact even
  next => exact even
  next =>
    split
    · exact even
    intro c member
    obtain before | added := List.mem_append.mp member
    · exact even c (List.mem_append_left _ before)
    · obtain ⟨d, open', rfl⟩ := Option.map_eq_some_iff.mp (Option.mem_toList.mp added)
      have same := even d (List.mem_append_right _ (Option.mem_toList.mpr open'))
      simp [Section.add, same]

theorem foldl_next_isEven {s : Splitting} (even : s.IsEven) (es : List Entry) :
    (es.foldl next s).IsEven := by
  induction es generalizing s with
  | nil => exact even
  | cons e rest ih => exact ih (next_isEven even e)

/-- From any point on, the lines that follow add to the step that is being read what stands before
the next header, and then the steps of their own. -/
theorem foldl_next_sections {s : Splitting} (even : s.IsEven) (es : List Entry) :
    (es.foldl next s).sections.map Section.step =
      s.closed.map Section.step ++ (s.current.toList.map fun c =>
        { c.step with output := c.step.output ++ outputUntilHeader s.inGroup es }) ++ steps es := by
  induction es generalizing s with
  | nil => simp [sections, outputUntilHeader, steps]
  | cons e rest ih =>
    rw [List.foldl_cons, ih (next_isEven even e), next, outputUntilHeader, steps]
    cases role : e.role with
    | header command => simp [sections, Section.step]
    | groupEnd => rfl
    | remark kind message => rfl
    | output =>
      cases grouped : s.inGroup with
      | true => simp [grouped]
      | false =>
        cases current : s.current with
        | none => simp
        | some c =>
          have same : c.output.length = c.numbers.length := even c (by simp [sections, current])
          simp [Section.step, Section.add, List.zip_append same.symm]

theorem foldl_next_remarks (s : Splitting) (es : List Entry) :
    (es.foldl next s).remarks = s.remarks ++ CiJob.remarks s.command es := by
  induction es generalizing s with
  | nil => simp [CiJob.remarks]
  | cons e rest ih =>
    rw [List.foldl_cons, ih, next, CiJob.remarks]
    cases role : e.role with
    | header command => rfl
    | groupEnd => rfl
    | remark kind message => simp [command]
    | output =>
      cases grouped : s.inGroup with
      | true => rfl
      | false => cases current : s.current <;> simp [command, current, Section.add]

theorem of_isEven (es : List Entry) : (of es).IsEven :=
  foldl_next_isEven (fun _ member => absurd member List.not_mem_nil) es

theorem of_sections (es : List Entry) : (of es).sections.map Section.step = steps es :=
  foldl_next_sections (fun _ member => absurd member List.not_mem_nil) es

theorem of_remarks (es : List Entry) : (of es).remarks = CiJob.remarks "" es :=
  foldl_next_remarks {} es

end Splitting

def Entry.isRemark (e : Entry) : Bool :=
  match e.role with
  | .remark _ _ => true
  | _ => false

def Entry.command? (e : Entry) : Option String :=
  match e.role with
  | .header command => some command
  | _ => none

structure Step.BegunBy (s : Step) (e : Entry) : Prop where
  role : e.role = .header s.command
  firstLine : s.firstLine = e.line.number

/-- Every header begins a step, and nothing else does. -/
theorem steps_headers (es : List Entry) :
    List.Forall₂ Step.BegunBy (steps es) (es.filter (·.isHeader)) := by
  fun_induction steps es with
  | case1 => exact .nil
  | case2 e rest command role ih =>
    rw [List.filter_cons_of_pos (by simp [Entry.isHeader, role])]
    exact .cons ⟨role, rfl⟩ ih
  | case3 e rest role ih =>
    rw [List.filter_cons_of_neg]
    · exact ih
    · unfold Entry.isHeader
      split
      next command header => exact absurd header (role command)
      next => exact Bool.false_ne_true

theorem mem_steps {es : List Entry} {s : Step} (member : s ∈ steps es) :
    ∃ before header rest, es = before ++ header :: rest ∧ s.BegunBy header ∧
      s.output = outputUntilHeader true rest := by
  fun_induction steps es with
  | case1 => cases member
  | case2 e rest command role ih =>
    obtain rfl | later := List.mem_cons.mp member
    · exact ⟨[], e, rest, rfl, ⟨role, rfl⟩, rfl⟩
    · obtain ⟨before, header, behind, rfl, begun, output⟩ := ih later
      exact ⟨e :: before, header, behind, rfl, begun, output⟩
  | case3 e rest role ih =>
    obtain ⟨before, header, behind, rfl, begun, output⟩ := ih member
    exact ⟨e :: before, header, behind, rfl, begun, output⟩

theorem mem_outputUntilHeader {inGroup : Bool} {es : List Entry} {p : Nat × String}
    (member : p ∈ outputUntilHeader inGroup es) :
    ∃ e ∈ es, e.role = .output ∧ p = (e.line.number, e.text) := by
  have behind {e : Entry} {rest : List Entry} :
      (∃ d ∈ rest, d.role = .output ∧ p = (d.line.number, d.text)) →
      ∃ d ∈ e :: rest, d.role = .output ∧ p = (d.line.number, d.text) := by
    rintro ⟨d, inside, found⟩
    exact ⟨d, List.mem_cons_of_mem e inside, found⟩
  fun_induction outputUntilHeader inGroup es with
  | case1 => cases member
  | case2 => cases member
  | case3 _ e rest role ih => exact behind (ih member)
  | case4 _ e rest kind message role ih => exact behind (ih member)
  | case5 e rest role ih => exact behind (ih member)
  | case6 _ e rest role open' ih =>
    obtain rfl | later := List.mem_cons.mp member
    · exact ⟨e, List.mem_cons_self, role, rfl⟩
    · exact behind (ih later)

/-- A line of output is kept if no header stands before it and, where a group is open, the end of
one does. -/
theorem number_mem_outputUntilHeader {inGroup : Bool} {es : List Entry} (ascends : Ascends es)
    {e : Entry} (member : e ∈ es) (output : e.role = .output) :
    e.line.number ∈ (outputUntilHeader inGroup es).map (·.1) ↔
      (∀ d ∈ es, d.isHeader = true → e.line.number ≤ d.line.number) ∧
      (inGroup = true → ∃ d ∈ es, d.role = .groupEnd ∧ d.line.number < e.line.number) := by
  induction es generalizing inGroup with
  | nil => cases member
  | cons d rest ih =>
    obtain ⟨ahead, later⟩ := List.pairwise_cons.mp ascends
    -- the line is the first one or stands behind it
    obtain rfl | inside := List.mem_cons.mp member
    · have plain : e.isHeader = false := by simp [Entry.isHeader, output]
      simp only [outputUntilHeader, output]
      cases inGroup with
      | false =>
        simp only [Bool.false_eq_true, if_false, List.map_cons, List.mem_cons, true_or,
          false_imp_iff, and_true, true_iff, forall_eq_or_imp, plain]
        exact ⟨trivial, fun d inside _ => Nat.le_of_lt (ahead d inside)⟩
      | true =>
        simp only [if_true, true_imp_iff]
        constructor
        · intro kept
          obtain ⟨p, kept, same⟩ := List.mem_map.mp kept
          obtain ⟨d, inside, -, rfl⟩ := mem_outputUntilHeader kept
          exact absurd same (Nat.ne_of_gt (ahead d inside))
        · rintro ⟨-, d, inside, ends, before⟩
          obtain rfl | inside := List.mem_cons.mp inside
          · exact absurd before (Nat.lt_irrefl _)
          · exact absurd before (Nat.lt_asymm (ahead d inside))
    · have apart : e.line.number ≠ d.line.number := Nat.ne_of_gt (ahead e inside)
      have ih (inGroup : Bool) := @ih inGroup later inside
      simp only [outputUntilHeader, List.mem_cons, forall_eq_or_imp, exists_eq_or_imp]
      cases role : d.role with
      | header command =>
        simp [Entry.isHeader, role, ahead e inside]
      | groupEnd =>
        simp [Entry.isHeader, role, ahead e inside, ih]
      | remark kind message =>
        simp [Entry.isHeader, role, ih]
      | output =>
        cases inGroup <;> simp [Entry.isHeader, role, ih, apart]

/-- A line stands in the output of a step that begins with the line `first`: no other header stands
between the two, but the end of a group does. -/
structure StandsBehind (es : List Entry) (first number : Nat) : Prop where
  behind : first < number
  last : ∀ d ∈ es, d.isHeader = true → d.line.number < number → d.line.number ≤ first
  closed : ∃ d ∈ es, d.role = .groupEnd ∧ first < d.line.number ∧ d.line.number < number

/-- In lines that follow one another, those behind one of them are the ones with greater numbers. -/
theorem mem_behind_iff {before rest : List Entry} {header e : Entry}
    (ascends : Ascends (before ++ header :: rest)) (member : e ∈ before ++ header :: rest) :
    header.line.number < e.line.number ↔ e ∈ rest := by
  obtain ⟨-, behind, across⟩ := List.pairwise_append.mp ascends
  constructor
  · intro greater
    obtain early | late := List.mem_append.mp member
    · exact absurd (across e early header List.mem_cons_self) (Nat.lt_asymm greater)
    · obtain rfl | inside := List.mem_cons.mp late
      · exact absurd greater (Nat.lt_irrefl _)
      · exact inside
  · exact (List.pairwise_cons.mp behind).1 e

theorem number_mem_output {es : List Entry} (ascends : Ascends es) {s : Step}
    (step : s ∈ steps es) {e : Entry} (member : e ∈ es) (output : e.role = .output) :
    e.line.number ∈ s.output.map (·.1) ↔ StandsBehind es s.firstLine e.line.number := by
  obtain ⟨before, header, rest, rfl, begun, made⟩ := mem_steps step
  have behind {d : Entry} := mem_behind_iff ascends (e := d)
  have later : Ascends rest := (List.pairwise_cons.mp (List.pairwise_append.mp ascends).2.1).2
  have within {d : Entry} (inside : d ∈ rest) : d ∈ before ++ header :: rest := by simp [inside]
  rw [made, begun.firstLine]
  constructor
  · intro kept
    obtain ⟨p, kept', same⟩ := List.mem_map.mp kept
    obtain ⟨d, inside, -, rfl⟩ := mem_outputUntilHeader kept'
    have greater : header.line.number < e.line.number := same ▸ (behind (within inside)).mpr inside
    have inside := (behind member).mp greater
    obtain ⟨free, ended⟩ := (number_mem_outputUntilHeader later inside output).mp kept
    obtain ⟨g, placed, ends, ahead⟩ := ended rfl
    refine ⟨greater, fun h present isHeader less => ?_, g, within placed, ends,
      (behind (within placed)).mpr placed, ahead⟩
    by_contra beyond
    have placed := (behind present).mp (Nat.lt_of_not_le beyond)
    exact absurd (free h placed isHeader) (Nat.not_le_of_lt less)
  · rintro ⟨greater, last, g, present, ends, after, ahead⟩
    have inside := (behind member).mp greater
    refine (number_mem_outputUntilHeader later inside output).mpr ⟨fun h placed isHeader => ?_,
      fun _ => ⟨g, (behind present).mp after, ends, ahead⟩⟩
    by_contra less
    have bound := last h (within placed) isHeader (Nat.lt_of_not_le less)
    exact absurd ((behind (within placed)).mpr placed) (Nat.not_lt_of_le bound)

/-- The command of the last header before the line with this number. -/
def commandBefore (es : List Entry) (number : Nat) : String :=
  ((es.filter (·.line.number < number)).filterMap Entry.command?).getLast?.getD ""

/-- The event is that of the line's remark, in the step whose header is the last before it. -/
def Tells (es : List Entry) (event : Event) (e : Entry) : Prop :=
  ∃ kind message, e.role = .remark kind message ∧
    event = remarkEvent (commandBefore es e.line.number) e.line kind message

theorem remarks_tell {before rest : List Entry} (ascends : Ascends (before ++ rest)) :
    List.Forall₂ (Tells (before ++ rest))
      (remarks ((before.filterMap Entry.command?).getLast?.getD "") rest)
      (rest.filter (·.isRemark)) := by
  -- `before` holds the lines that were passed; its last header is that of the step being read
  induction rest generalizing before with
  | nil => exact .nil
  | cons e rest ih =>
    have further : Ascends ((before ++ [e]) ++ rest) := by simpa using ascends
    have later := ih further
    rw [List.append_assoc, List.singleton_append, List.filterMap_append] at later
    rw [remarks]
    cases role : e.role with
    | header command =>
      rw [List.filter_cons_of_neg (by simp [Entry.isRemark, role])]
      simpa [Entry.command?, role] using later
    | groupEnd =>
      rw [List.filter_cons_of_neg (by simp [Entry.isRemark, role])]
      simpa [Entry.command?, role] using later
    | output =>
      rw [List.filter_cons_of_neg (by simp [Entry.isRemark, role])]
      simpa [Entry.command?, role] using later
    | remark kind message =>
      rw [List.filter_cons_of_pos (by simp [Entry.isRemark, role])]
      refine .cons ⟨kind, message, role, ?_⟩ (by simpa [Entry.command?, role] using later)
      obtain ⟨-, behind, across⟩ := List.pairwise_append.mp ascends
      have passed : (before ++ e :: rest).filter (·.line.number < e.line.number) = before := by
        have early : before.filter (·.line.number < e.line.number) = before :=
          List.filter_eq_self.mpr fun d member =>
            decide_eq_true (across d member e List.mem_cons_self)
        have late : (e :: rest).filter (·.line.number < e.line.number) = [] := by
          refine List.filter_eq_nil_iff.mpr fun d member => ?_
          obtain rfl | member := List.mem_cons.mp member
          · simp
          · have ahead := (List.pairwise_cons.mp behind).1 d member
            simpa using Nat.le_of_lt ahead
        rw [List.filter_append, early, late, List.append_nil]
      rw [commandBefore, passed]

structure Section.IsAligned (es : List Entry) (c : Section) : Prop where
  even : c.output.length = c.numbers.length
  ascends : c.numbers.Pairwise (· < ·)
  lines : ∀ (j n : Nat), c.numbers[j]? = some n →
    ∃ e ∈ es, e.role = .output ∧ e.line.number = n ∧ c.output[j]? = some e.text

theorem of_isAligned {es : List Entry} (ascends : Ascends es) {c : Section}
    (member : c ∈ (Splitting.of es).sections) : c.IsAligned es := by
  have even := Splitting.of_isEven es c member
  have step : c.step ∈ steps es := by
    rw [← Splitting.of_sections]
    exact List.mem_map_of_mem member
  have numbers : c.step.output.map (·.1) = c.numbers :=
    List.map_fst_zip (Nat.le_of_eq even.symm)
  obtain ⟨before, header, rest, rfl, -, made⟩ := mem_steps step
  have later : Ascends rest := (List.pairwise_cons.mp (List.pairwise_append.mp ascends).2.1).2
  refine ⟨even, ?_, fun j n found => ?_⟩
  · rw [← numbers, made]
    have part := (outputUntilHeader_sublist true rest).map (·.1)
    rw [List.map_map] at part
    refine List.Pairwise.sublist part (List.pairwise_map.mpr ?_)
    exact List.Pairwise.sublist (List.takeWhile_sublist _) later
  · rw [← numbers, List.getElem?_map] at found
    obtain ⟨p, place, same⟩ := Option.map_eq_some_iff.mp found
    have inside : p ∈ outputUntilHeader true rest := made ▸ List.mem_of_getElem? place
    obtain ⟨e, placed, output, rfl⟩ := mem_outputUntilHeader inside
    refine ⟨e, by simp [placed], output, same, ?_⟩
    exact (List.getElem?_zip_eq_some.mp place).2

/-- Every line of a job's log is what the patterns, tried in their order, make of it, and what is
read line after line is what the steps and remarks of the log are. The headers begin the steps, in
their order. A line of output belongs to a step if and only if the step's header is the last before
it and the end of a group stands between the two, and the numbers of a step's output ascend, each
beside the text of its line. The remarks are told in their order, each in the step of the last
header before it. -/
theorem splitting_accounts (limit : Int) (content : String) :
    let es := entries limit content
    let read := Splitting.of es
    (∀ e ∈ es, e.role.Fits e.text) ∧
      (read.sections.map Section.step = steps es ∧ read.remarks = remarks "" es) ∧
      List.Forall₂ Step.BegunBy (read.sections.map Section.step) (es.filter (·.isHeader)) ∧
      (∀ c ∈ read.sections, c.IsAligned es ∧ ∀ e ∈ es, e.role = .output →
        (e.line.number ∈ c.numbers ↔ StandsBehind es c.firstLine e.line.number)) ∧
      List.Forall₂ (Tells es) read.remarks (es.filter (·.isRemark)) := by
  intro es read
  have ascends : Ascends es := entries_ascends limit content
  have sections : read.sections.map Section.step = steps es := Splitting.of_sections es
  have told : read.remarks = remarks "" es := Splitting.of_remarks es
  refine ⟨fun e => entries_fit, ⟨sections, told⟩, ?_, fun c member => ?_, ?_⟩
  · rw [sections]
    exact steps_headers es
  · have aligned := of_isAligned ascends member
    have step : c.step ∈ steps es := sections ▸ List.mem_map_of_mem member
    have numbers : c.step.output.map (·.1) = c.numbers :=
      List.map_fst_zip (Nat.le_of_eq aligned.even.symm)
    refine ⟨aligned, fun e inside output => ?_⟩
    rw [← numbers]
    exact number_mem_output ascends step inside output
  · rw [told]
    have whole : Ascends ([] ++ es) := ascends
    exact remarks_tell whole

theorem sections_remarked : (Splitting.of (entries 2000 remarked)).sections =
    [⟨"pytest", 1, ["a.py::t PASSED", "a.py::u FAILED"], [3, 5]⟩] := by rfl

/-- The remark in the fourth line parts the output; the line behind it still belongs to the step. -/
theorem splitting_accounts_remarked :
    let es := entries 2000 remarked
    ∃ c ∈ (Splitting.of es).sections, c.IsAligned es ∧ c.numbers = [3, 5] ∧
      StandsBehind es 1 5 ∧ ¬StandsBehind es 1 2 := by
  intro es
  obtain ⟨-, -, -, sections, -⟩ := splitting_accounts 2000 remarked
  have only : (⟨"pytest", 1, ["a.py::t PASSED", "a.py::u FAILED"], [3, 5]⟩ : Section) ∈
      (Splitting.of es).sections := by
    rw [sections_remarked]
    exact List.mem_singleton.mpr rfl
  obtain ⟨aligned, belongs⟩ := sections _ only
  obtain ⟨e, member, output, fifth⟩ : ∃ e ∈ es, e.role = .output ∧ e.line.number = 5 := by
    decide +kernel
  refine ⟨_, only, aligned, rfl, ?_, ?_⟩
  · exact fifth ▸ (belongs e member output).mp (by simp [fifth])
  · rintro ⟨-, -, d, -, -, after, before⟩
    omega

end BuildLog.Format.CiJob
