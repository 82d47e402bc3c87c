/-! Reading a list of symbols from the front. What a scan leaves is never longer than what it
was given, so a loop that takes a symbol before each scan comes to an end. -/
namespace BuildLog

def Scan (τ ε α : Type) : Type :=
  (s : List τ) → Except ε (α × { r : List τ // r.length ≤ s.length })

namespace Scan

variable {τ ε α β : Type}

def pure (a : α) : Scan τ ε α := fun s => .ok (a, ⟨s, Nat.le_refl _⟩)

def bind (x : Scan τ ε α) (f : α → Scan τ ε β) : Scan τ ε β := fun s =>
  match x s with
  | .error e => .error e
  | .ok (a, r) =>
    match f a r.1 with
    | .error e => .error e
    | .ok (b, t) => .ok (b, ⟨t.1, Nat.le_trans t.2 r.2⟩)

instance : Monad (Scan τ ε) where
  pure := pure
  bind := bind

def fail (e : ε) : Scan τ ε α := fun _ => .error e

/-- An answer that takes nothing. -/
def ofExcept : Except ε α → Scan τ ε α
  | .error e => fail e
  | .ok a => pure a

/-- What has not been read yet. -/
def rest : Scan τ ε (List τ) := fun s => .ok (s, ⟨s, Nat.le_refl _⟩)

/-- The next symbol, taken. -/
def next? : Scan τ ε (Option τ)
  | [] => .ok (none, ⟨[], Nat.le_refl _⟩)
  | c :: t => .ok (some c, ⟨t, Nat.le_succ _⟩)

def drop (n : Nat) : Scan τ ε Unit := fun s => .ok ((), ⟨s.drop n, by simp⟩)

/-- Take the next symbol if it is the given one. -/
def skip? [BEq τ] (c : τ) : Scan τ ε Bool
  | [] => .ok (false, ⟨[], Nat.le_refl _⟩)
  | d :: t =>
    if d == c then .ok (true, ⟨t, Nat.le_succ _⟩) else .ok (false, ⟨d :: t, Nat.le_refl _⟩)

/-- The longest run of symbols with a property. -/
def takeWhile (p : τ → Bool) : Scan τ ε (List τ) := fun s =>
  .ok (s.takeWhile p, ⟨s.dropWhile p, (s.dropWhile_sublist p).length_le⟩)

/-- A run of at most `n` symbols with a property. -/
def takeUpTo (n : Nat) (p : τ → Bool) : Scan τ ε (List τ) := fun s =>
  let run := (s.take n).takeWhile p
  .ok (run, ⟨s.drop run.length, by simp⟩)

/-- Take symbols one by one until a step says that it is done. -/
def loop (step : α → τ → Scan τ ε (α ⊕ β)) (atEnd : α → Scan τ ε β) (a : α) : Scan τ ε β
  | [] => atEnd a []
  | t :: rest =>
    match step a t rest with
    | .error e => .error e
    | .ok (.inr b, r) => .ok (b, ⟨r.1, Nat.le_succ_of_le r.2⟩)
    | .ok (.inl a, r) =>
      match loop step atEnd a r.1 with
      | .error e => .error e
      | .ok (b, q) => .ok (b, ⟨q.1, Nat.le_succ_of_le (Nat.le_trans q.2 r.2)⟩)
termination_by s => s.length
decreasing_by exact Nat.lt_succ_of_le r.2

end BuildLog.Scan
