import BuildLog.Fault

/-! Answers of computations. A computation returns an answer if it ends with it after some notices;
what a composed computation returns comes from answers of its parts. One that gives up does so by a
fault of one of its parts: the first of them that gives up, after answers of all before it. -/
namespace BuildLog

/-- A fault of a rule document or of a reference to one, which has a message. -/
def Fault.isConfig : Fault → Bool
  | .config _ => true
  | _ => false

namespace Run

@[simp] theorem pure_apply (a : α) (told : Array Notice) : (pure a : Run α) told = (.ok a, told) :=
  rfl

theorem bind_apply (x : Run α) (f : α → Run β) (told : Array Notice) :
    (x >>= f) told =
      match x told with
      | (.ok a, told') => f a told'
      | (.error e, told') => (.error e, told') := by
  change ExceptT.bindCont f (x told).1 (x told).2 = _
  cases x told with
  | mk result told' => cases result <;> rfl

/-- A fault is replaced, but what was told on the way to it stays told. -/
theorem orElse_apply (x : Run α) (other : α) (told : Array Notice) :
    (x.orElse other) told =
      match x told with
      | (.ok a, told') => (.ok a, told')
      | (.error _, told') => (.ok other, told') := by
  simp only [orElse, bind_apply, attempt]
  cases x told with
  | mk result told' => cases result <;> rfl

/-- With another answer at hand there is always one. -/
theorem orElse_ok (x : Run α) (other : α) (told : Array Notice) :
    ∃ a told', (x.orElse other) told = (.ok a, told') := by
  rw [orElse_apply]
  rcases x told with ⟨e | a, told'⟩
  · exact ⟨other, told', rfl⟩
  · exact ⟨a, told', rfl⟩

/-- Which notices were told before is left open. -/
def Returns (x : Run α) (a : α) : Prop := ∃ told told', x told = (.ok a, told')

@[simp] theorem returns_pure {a b : α} : Returns (pure a) b ↔ a = b := by
  constructor
  · rintro ⟨told, told', done⟩
    exact Except.ok.inj (congrArg Prod.fst done)
  · rintro rfl
    exact ⟨#[], #[], rfl⟩

theorem returns_of_eq {x : Run α} {a : α} (done : x = pure a) : x.Returns a := by
  rw [done, returns_pure]

@[simp] theorem not_returns_throw (e : Fault) (a : α) : ¬Returns (throw e) a := by
  rintro ⟨told, told', done⟩
  cases congrArg Prod.fst done

@[simp] theorem returns_ofNumber {x : Except Decimal.Error α} {a : α} :
    (ofNumber x).Returns a ↔ x = .ok a := by
  cases x with
  | ok b => simp [ofNumber]
  | error e => simp [ofNumber]

theorem returns_tell (n : Notice) (u : Unit) : (tell n).Returns u := ⟨#[], #[n], rfl⟩

theorem returns_bind {x : Run α} {f : α → Run β} {b : β} (done : Returns (x >>= f) b) :
    ∃ a, x.Returns a ∧ (f a).Returns b := by
  obtain ⟨told, told', done⟩ := done
  rw [bind_apply] at done
  split at done
  next a middle first => exact ⟨a, ⟨told, middle, first⟩, ⟨middle, told', done⟩⟩
  next => cases congrArg Prod.fst done

theorem Returns.bind_pure {x : Run α} {f : α → Run β} {a : α} {b : β} (done : x.Returns a)
    (later : f a = pure b) : (x >>= f).Returns b := by
  obtain ⟨told, told', ended⟩ := done
  refine ⟨told, told', ?_⟩
  rw [bind_apply, ended]
  exact congrFun later told'

theorem returns_anyM {f : α → Run Bool} {l : List α} (done : (l.anyM f).Returns true) :
    ∃ a ∈ l, (f a).Returns true := by
  induction l with
  | nil => cases returns_pure.mp done
  | cons a rest ih =>
    obtain ⟨found, first, done⟩ := returns_bind done
    cases found with
    | true => exact ⟨a, List.mem_cons_self, first⟩
    | false =>
      obtain ⟨b, member, later⟩ := ih done
      exact ⟨b, List.mem_cons_of_mem a member, later⟩

theorem returns_allM_head {f : α → Run Bool} {a : α} {rest : List α}
    (done : ((a :: rest).allM f).Returns true) : (f a).Returns true := by
  obtain ⟨right, first, done⟩ := returns_bind done
  cases right with
  | true => exact first
  | false => cases returns_pure.mp done

theorem returns_orElse {x : Run α} {other a : α} (done : (x.orElse other).Returns a) :
    x.Returns a ∨ a = other := by
  obtain ⟨told, told', done⟩ := done
  rw [orElse_apply] at done
  split at done
  next b last own =>
    cases done
    exact .inl ⟨told, told', own⟩
  next => exact .inr (Except.ok.inj (congrArg Prod.fst done)).symm

theorem throw_bind (e : Fault) (f : α → Run β) : (throw e : Run α) >>= f = throw e := rfl

/-- The computation ends with an answer, and it tells nothing. -/
def Answers (x : Run α) : Prop := ∃ a, x = pure a

theorem answers_pure (a : α) : Answers (pure a) := ⟨a, rfl⟩

theorem Answers.bind {x : Run α} {f : α → Run β} (first : x.Answers)
    (later : ∀ a, (f a).Answers) : (x >>= f).Answers := by
  obtain ⟨a, rfl⟩ := first
  rw [pure_bind]
  exact later a

theorem answers_anyM {f : α → Run Bool} {l : List α} (each : ∀ a ∈ l, (f a).Answers) :
    (l.anyM f).Answers := by
  induction l with
  | nil => exact answers_pure false
  | cons a rest ih =>
    obtain ⟨b, done⟩ := each a (by simp)
    simp only [List.anyM, done, pure_bind]
    cases b with
    | true => exact answers_pure true
    | false => exact ih fun a member => each a (by simp [member])

/-- Where each answer is known, the search tells nothing and ends with what it finds in them. -/
theorem anyM_eq_pure {f : α → Run Bool} {p : α → Bool} {l : List α}
    (each : ∀ a ∈ l, f a = pure (p a)) : l.anyM f = pure (l.any p) := by
  induction l with
  | nil => rfl
  | cons a rest ih =>
    have others := ih fun b member => each b (by simp [member])
    rw [List.anyM, each a (by simp), pure_bind, List.any_cons]
    cases p a with
    | true => rfl
    | false => exact others

/-- The computation gives up under this condition, and without it ends with an answer. -/
structure FailsIff (x : Run α) (p : Prop) : Prop where
  fails : p → ∃ e, x = throw e
  answers : ¬p → x.Answers

namespace FailsIff

theorem exists_returns {x : Run α} {p : Prop} (h : x.FailsIff p) : (∃ a, x.Returns a) ↔ ¬p := by
  constructor
  · rintro ⟨a, done⟩ faulty
    obtain ⟨e, rfl⟩ := h.fails faulty
    exact not_returns_throw e a done
  · intro free
    obtain ⟨a, rfl⟩ := h.answers free
    exact ⟨a, returns_pure.mpr rfl⟩

theorem of_answers {x : Run α} {p : Prop} (done : x.Answers) (never : ¬p) : x.FailsIff p :=
  ⟨fun faulty => absurd faulty never, fun _ => done⟩

theorem congr {x : Run α} {p q : Prop} (h : x.FailsIff p) (same : p ↔ q) : x.FailsIff q where
  fails faulty := h.fails (same.mpr faulty)
  answers free := h.answers fun faulty => free (same.mp faulty)

theorem bind {x : Run α} {f : α → Run β} {p q : Prop} (first : x.FailsIff p)
    (later : ∀ a, x = pure a → (f a).FailsIff q) : (x >>= f).FailsIff (p ∨ q) := by
  by_cases faulty : p
  · obtain ⟨e, rfl⟩ := first.fails faulty
    exact ⟨fun _ => ⟨e, throw_bind e f⟩, fun free => absurd (.inl faulty) free⟩
  · obtain ⟨a, rfl⟩ := first.answers faulty
    rw [pure_bind]
    exact (later a rfl).congr (by simp [faulty])

theorem eq_pure {x : Run α} {p : Prop} {a : α} (h : x.FailsIff p) (done : x.Returns a) :
    x = pure a := by
  obtain ⟨b, rfl⟩ := h.answers (h.exists_returns.mp ⟨a, done⟩)
  rw [returns_pure.mp done]

/-- Nothing that is done with an answer alone adds a fault. -/
theorem bind_pure {x : Run α} {p : Prop} (h : x.FailsIff p) (f : α → β) :
    (x >>= fun a => pure (f a)).FailsIff p := by
  have never (a : α) : (pure (f a) : Run β).FailsIff False := of_answers (answers_pure (f a)) id
  exact (h.bind fun a _ => never a).congr (by simp)

theorem mapM {f : α → Run β} {p : α → Prop} (each : ∀ a, (f a).FailsIff (p a)) (l : List α) :
    (l.mapM f).FailsIff (∃ a ∈ l, p a) := by
  induction l with
  | nil => exact .of_answers (answers_pure []) (by simp)
  | cons a rest ih =>
    rw [List.mapM_cons]
    exact ((each a).bind fun b _ => ih.bind_pure (b :: ·)).congr (by simp)

theorem flatMapM {f : α → Run (List β)} {p : α → Prop} (each : ∀ a, (f a).FailsIff (p a))
    (l : List α) : (l.flatMapM f).FailsIff (∃ a ∈ l, p a) := by
  induction l with
  | nil => exact .of_answers (answers_pure []) (by simp)
  | cons a rest ih =>
    rw [List.flatMapM_cons]
    exact ((each a).bind fun b _ => ih.bind_pure (b ++ ·)).congr (by simp)

end FailsIff

theorem ofNumber_failsIff {x : Except Decimal.Error α} {p : Prop}
    (wrong : (∃ e, x = .error e) ↔ p) : (ofNumber x).FailsIff p := by
  refine FailsIff.congr ?_ wrong
  cases x with
  | ok a => exact .of_answers (answers_pure a) (by simp)
  | error e => exact ⟨fun _ => ⟨.number e, rfl⟩, fun free => absurd ⟨e, rfl⟩ free⟩

/-- Whatever was told before, the computation ends in this way. -/
def Ends (x : Run α) (r : Except Fault α) : Prop := ∀ told, ∃ told', x told = (r, told')

theorem ends_pure (a : α) : (pure a : Run α).Ends (.ok a) := fun told => ⟨told, rfl⟩

theorem Ends.unique {x : Run α} {r s : Except Fault α} (ends : x.Ends r) (other : x.Ends s) :
    r = s := by
  obtain ⟨told', done⟩ := ends #[]
  obtain ⟨last, same⟩ := other #[]
  rw [done] at same
  exact congrArg Prod.fst same

theorem Ends.returns_iff {x : Run α} {r : Except Fault α} (ends : x.Ends r) (a : α) :
    x.Returns a ↔ r = .ok a := by
  constructor
  · rintro ⟨told, last, done⟩
    obtain ⟨told', same⟩ := ends told
    rw [done] at same
    exact (congrArg Prod.fst same).symm
  · rintro rfl
    obtain ⟨told', done⟩ := ends #[]
    exact ⟨#[], told', done⟩

theorem Ends.bind_ok {x : Run α} {f : α → Run β} {a : α} {r : Except Fault β}
    (first : x.Ends (.ok a)) (later : (f a).Ends r) : (x >>= f).Ends r := by
  intro told
  obtain ⟨middle, done⟩ := first told
  obtain ⟨told', ended⟩ := later middle
  refine ⟨told', ?_⟩
  rw [bind_apply, done]
  exact ended

theorem Ends.bind_error {x : Run α} {e : Fault} (first : x.Ends (.error e)) (f : α → Run β) :
    (x >>= f).Ends (.error e) := by
  intro told
  obtain ⟨told', done⟩ := first told
  exact ⟨told', by rw [bind_apply, done]⟩

theorem Ends.attempt {x : Run α} {r : Except Fault α} (ends : x.Ends r) :
    x.attempt.Ends (.ok r) := by
  intro told
  obtain ⟨told', done⟩ := ends told
  exact ⟨told', by rw [Run.attempt, done]⟩

theorem Ends.orElse_ok {x : Run α} {a : α} (ends : x.Ends (.ok a)) (other : α) :
    (x.orElse other).Ends (.ok a) := by
  intro told
  obtain ⟨told', done⟩ := ends told
  exact ⟨told', by rw [orElse_apply, done]⟩

theorem Ends.orElse_error {x : Run α} {e : Fault} (ends : x.Ends (.error e)) (other : α) :
    (x.orElse other).Ends (.ok other) := by
  intro told
  obtain ⟨told', done⟩ := ends told
  exact ⟨told', by rw [orElse_apply, done]⟩

/-- What was told before does not matter for how the computation ends. -/
def IsSteady (x : Run α) : Prop := ∃ r, x.Ends r

/-- Whatever was told before, the computation ends alike: with an answer, by a fault that has a
message, or by another fault; and by another one exactly if it is one of these. -/
def BreaksBy (x : Run α) (p : Fault → Prop) : Prop :=
  ∃ r, x.Ends r ∧ ∀ e, p e ↔ r = .error e ∧ e.isConfig = false

namespace BreaksBy

theorem congr {x : Run α} {p q : Fault → Prop} (h : x.BreaksBy p) (same : ∀ e, p e ↔ q e) :
    x.BreaksBy q := by
  obtain ⟨r, ends, faults⟩ := h
  exact ⟨r, ends, fun e => (same e).symm.trans (faults e)⟩

theorem of_pure (a : α) : BreaksBy (pure a) fun _ => False :=
  ⟨.ok a, ends_pure a, by simp⟩

theorem of_config (m : ConfigError) : BreaksBy (throw (.config m) : Run α) fun _ => False := by
  refine ⟨.error (.config m), fun told => ⟨told, rfl⟩, fun e => ⟨False.elim, ?_⟩⟩
  rintro ⟨same, plain⟩
  cases same
  cases plain

theorem of_throw {fault : Fault} (plain : fault.isConfig = false) :
    BreaksBy (throw fault : Run α) (· = fault) := by
  refine ⟨.error fault, fun told => ⟨told, rfl⟩, fun e => ⟨?_, ?_⟩⟩
  · rintro rfl
    exact ⟨rfl, plain⟩
  · rintro ⟨same, -⟩
    exact (Except.error.inj same).symm

theorem of_tell (n : Notice) : (tell n).BreaksBy fun _ => False :=
  ⟨.ok (), fun told => ⟨told.push n, rfl⟩, by simp⟩

theorem bind {x : Run α} {f : α → Run β} {p : Fault → Prop} {q : α → Fault → Prop}
    (first : x.BreaksBy p) (later : ∀ a, x.Returns a → (f a).BreaksBy (q a)) :
    (x >>= f).BreaksBy fun e => p e ∨ ∃ a, x.Returns a ∧ q a e := by
  obtain ⟨r, ends, faults⟩ := first
  cases r with
  | error cause =>
    refine ⟨.error cause, ends.bind_error f, fun e => ?_⟩
    simp [faults, ends.returns_iff]
  | ok a =>
    obtain ⟨r, ended, others⟩ := later a ((ends.returns_iff a).mpr rfl)
    refine ⟨r, ends.bind_ok ended, fun e => ?_⟩
    simp [faults, ends.returns_iff, others]

/-- What is told first adds no fault. -/
theorem tell_bind {x : Run α} {p : Fault → Prop} (h : x.BreaksBy p) (n : Notice) :
    (tell n >>= fun _ => x).BreaksBy p :=
  ((of_tell n).bind fun _ _ => h).congr (by simp [returns_tell])

/-- Nothing that is done with an answer alone adds a fault. -/
theorem bind_pure {x : Run α} {p : Fault → Prop} (h : x.BreaksBy p) (f : α → β) :
    (x >>= fun a => pure (f a)).BreaksBy p :=
  (h.bind fun a _ => of_pure (f a)).congr (by simp)

/-- The first element on which the function breaks is the one that counts. -/
theorem mapM {f : α → Run β} {p : α → Fault → Prop} {l : List α}
    (each : ∀ a ∈ l, (f a).BreaksBy (p a)) :
    (l.mapM f).BreaksBy fun e => ∃ (i : Nat) (a : α), l[i]? = some a ∧
      (∀ j < i, ∀ b, l[j]? = some b → ∃ y, (f b).Returns y) ∧ p a e := by
  induction l with
  | nil => exact (of_pure []).congr (by simp)
  | cons a rest ih =>
    have first := each a (by simp)
    have later := ih fun b member => each b (by simp [member])
    rw [List.mapM_cons]
    refine (first.bind fun b _ => later.bind_pure (b :: ·)).congr fun e => ⟨?_, ?_⟩
    · rintro (breaks | ⟨y, done, i, c, place, sound, breaks⟩)
      · exact ⟨0, a, rfl, by simp, breaks⟩
      · refine ⟨i + 1, c, place, fun j earlier b found => ?_, breaks⟩
        cases j with
        | zero => exact ⟨y, Option.some.inj found ▸ done⟩
        | succ j => exact sound j (Nat.lt_of_succ_lt_succ earlier) b found
    · rintro ⟨i, c, place, sound, breaks⟩
      cases i with
      | zero => exact .inl (Option.some.inj place ▸ breaks)
      | succ i =>
        obtain ⟨y, done⟩ := sound 0 (Nat.zero_lt_succ i) a rfl
        refine .inr ⟨y, done, i, c, place, fun j earlier b found => ?_, breaks⟩
        exact sound (j + 1) (Nat.succ_lt_succ earlier) b found

end BreaksBy

end Run

end BuildLog
