import BuildLog.Scan

/-! What a scan answers and leaves, apart from the proof that it leaves no more than it was given.
Scans in a row and steps of a loop are followed in these terms. -/
namespace BuildLog

namespace Scan

def outcome (x : Scan τ ε α) (s : List τ) : Except ε (α × List τ) :=
  (x s).map fun (a, rest) => (a, rest.1)

theorem outcome_bind (x : Scan τ ε α) (f : α → Scan τ ε β) (s : List τ) :
    (x >>= f).outcome s =
      match x.outcome s with
      | .error e => .error e
      | .ok (a, rest) => (f a).outcome rest := by
  change Except.map _ (Scan.bind x f s) = _
  unfold outcome Scan.bind
  cases x s with
  | error e => rfl
  | ok answer =>
    dsimp only [Except.map]
    cases f answer.1 answer.2.1 <;> rfl

theorem loop_nil (step : α → τ → Scan τ ε (α ⊕ β)) (atEnd : α → Scan τ ε β) (a : α) :
    (loop step atEnd a).outcome [] = (atEnd a).outcome [] := by
  simp only [outcome, loop]

theorem outcome_length {x : Scan τ ε α} {s rest : List τ} {a : α}
    (done : x.outcome s = .ok (a, rest)) : rest.length ≤ s.length := by
  unfold outcome at done
  cases given : x s with
  | error e =>
    rw [given] at done
    cases done
  | ok answer =>
    rw [given] at done
    cases done
    exact answer.2.2

/-- A loop takes a symbol, does a step, and goes on with what the step leaves. -/
theorem loop_outcome (step : α → τ → Scan τ ε (α ⊕ β)) (atEnd : α → Scan τ ε β) (a : α) (t : τ)
    (s : List τ) :
    (loop step atEnd a).outcome (t :: s) =
      match (step a t).outcome s with
      | .error e => .error e
      | .ok (.inr b, rest) => .ok (b, rest)
      | .ok (.inl next, rest) => (loop step atEnd next).outcome rest := by
  unfold outcome
  rw [loop]
  rcases step a t s with e | ⟨next | b, rest, shorter⟩
  · rfl
  · dsimp only [Except.map]
    cases loop step atEnd next rest <;> rfl
  · rfl

/-- A step that does not end the loop hands on what it leaves. -/
theorem loop_cons {step : α → τ → Scan τ ε (α ⊕ β)} {a next : α} {t : τ} {s rest : List τ}
    (stepped : (step a t).outcome s = .ok (.inl next, rest)) (atEnd : α → Scan τ ε β) :
    (loop step atEnd a).outcome (t :: s) = (loop step atEnd next).outcome rest := by
  rw [loop_outcome, stepped]

theorem loop_error {step : α → τ → Scan τ ε (α ⊕ β)} {a : α} {t : τ} {s : List τ} {e : ε}
    (failed : (step a t).outcome s = .error e) (atEnd : α → Scan τ ε β) :
    (loop step atEnd a).outcome (t :: s) = .error e := by
  rw [loop_outcome, failed]

end Scan

end BuildLog
