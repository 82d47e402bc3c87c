import BuildLog.Command
import BuildLog.Proofs.Pattern.Like

/-! Commands matched through patterns compiled earlier. Whatever was asked for before, a pattern
that is kept is the one that compiling would give now, so whether a command matches depends on the
command and the pattern alone. -/
namespace BuildLog

namespace Command

inductive Request where
  | get (kind : CommandKind) (pattern : String)
  | clear

namespace Cache

/-- The patterns kept after a request; one that gives up leaves them as they were. -/
def after [Host] (cache : Cache) : Request → Cache
  | .get kind pattern =>
    match cache.get kind pattern with
    | .ok (_, later) => later
    | .error _ => cache
  | .clear => .empty

def afterAll [Host] (cache : Cache) (requests : List Request) : Cache := requests.foldl after cache

def IsFaithful [Host] (cache : Cache) : Prop :=
  ∀ kind pattern compiled, cache.entries.lookup (kind, pattern) = some compiled →
    compile? kind pattern = .ok compiled

variable {cache later : Cache}

theorem empty_isFaithful [Host] : empty.IsFaithful := by
  intro kind pattern compiled kept
  cases kept

theorem IsFaithful.get_eq [Host] (faithful : cache.IsFaithful) (kind : CommandKind)
    (pattern : String) : (cache.get kind pattern).map Prod.fst = compile? kind pattern := by
  rw [get]
  cases kept : cache.entries.lookup (kind, pattern) with
  | some compiled => exact (faithful kind pattern compiled kept).symm
  | none => cases compile? kind pattern <;> rfl

theorem IsFaithful.get_leaves [Host] (faithful : cache.IsFaithful) {kind : CommandKind}
    {pattern : String} {compiled : Option Pattern}
    (got : cache.get kind pattern = .ok (compiled, later)) : later.IsFaithful := by
  rw [get] at got
  cases kept : cache.entries.lookup (kind, pattern) with
  | some earlier =>
    rw [kept] at got
    cases got
    exact faithful
  | none =>
    rw [kept] at got
    cases fresh : compile? kind pattern with
    | error e =>
      rw [fresh] at got
      cases got
    | ok now =>
      rw [fresh] at got
      cases got
      intro otherKind other answer known
      rw [List.lookup_cons] at known
      split at known
      next same =>
        obtain ⟨rfl, rfl⟩ : otherKind = kind ∧ other = pattern := by simpa using same
        cases known
        exact fresh
      next => exact faithful otherKind other answer known

theorem IsFaithful.after [Host] (faithful : cache.IsFaithful) (request : Request) :
    (cache.after request).IsFaithful := by
  cases request with
  | clear => exact empty_isFaithful
  | get kind pattern =>
    rw [Cache.after]
    cases got : cache.get kind pattern with
    | error e => exact faithful
    | ok answer => exact faithful.get_leaves got

theorem IsFaithful.afterAll [Host] (faithful : cache.IsFaithful) (requests : List Request) :
    (cache.afterAll requests).IsFaithful := by
  induction requests generalizing cache with
  | nil => exact faithful
  | cons request rest ih => exact ih (faithful.after request)

end Cache

abbrev Cached (α : Type) : Type := StateT Cache (Except Pattern.Error) α

/-- Whatever was compiled before, the work ends with the answer and keeps no wrong pattern. -/
def Cached.Answers [Host] (x : Cached α) (a : α) : Prop :=
  ∀ cache : Cache, cache.IsFaithful → ∃ later, x cache = .ok (a, later) ∧ later.IsFaithful

theorem Cached.Answers.pure [Host] (a : α) : Answers (pure a) a :=
  fun cache faithful => ⟨cache, rfl, faithful⟩

theorem Cached.Answers.bind [Host] {x : Cached α} {f : α → Cached β} {a : α} {b : β}
    (first : x.Answers a) (later : (f a).Answers b) : Answers (x >>= f) b := by
  intro cache faithful
  obtain ⟨middle, done, faithful⟩ := first cache faithful
  obtain ⟨last, rest, faithful⟩ := later middle faithful
  refine ⟨last, ?_, faithful⟩
  change (x cache >>= fun answer => f answer.1 answer.2) = _
  rw [done]
  exact rest

end Command

namespace CommandPattern

theorem matchesCached_eq [Host] {cache : Command.Cache} (faithful : cache.IsFaithful)
    (p : CommandPattern) (command : String) :
    (p.matchesCached cache command).map Prod.fst = p.matches? command := by
  obtain ⟨pattern, kind⟩ := p
  cases kind with
  | literal => rfl
  | _ =>
    simp only [matchesCached, matches?, ← faithful.get_eq]
    cases cache.get _ pattern <;> rfl

theorem like_matches? [Host] (like command : String) :
    matches? ⟨like, .like⟩ command = .ok (Pattern.Like.accepts like command) := rfl

theorem matchesCached_leaves [Host] {cache later : Command.Cache} (faithful : cache.IsFaithful)
    {p : CommandPattern} {command : String} {accepted : Bool}
    (matched : p.matchesCached cache command = .ok (accepted, later)) : later.IsFaithful := by
  obtain ⟨pattern, kind⟩ := p
  cases kind with
  | literal =>
    cases matched
    exact faithful
  | _ =>
    simp only [matchesCached] at matched
    cases got : cache.get _ pattern with
    | error e =>
      rw [got] at matched
      cases matched
    | ok answer =>
      rw [got] at matched
      cases matched
      exact faithful.get_leaves got

/-- A pattern answers the same whatever was compiled before. -/
theorem matchesCached_answers [Host] {p : CommandPattern} {command : String} {accepted : Bool}
    (matched : p.matches? command = .ok accepted) :
    Command.Cached.Answers (p.matchesCached · command) accepted := by
  intro cache faithful
  have same := matchesCached_eq faithful p command
  rw [matched] at same
  cases given : p.matchesCached cache command with
  | error e =>
    rw [given] at same
    cases same
  | ok answer =>
    obtain ⟨found, later⟩ := answer
    rw [given] at same
    cases same
    exact ⟨later, given, matchesCached_leaves faithful given⟩

/-- A pattern with wildcards, spelled in the general notation, is read as the pattern itself; and
whatever was compiled before, it matches exactly the commands that it describes. -/
theorem like_matchesCached [Host] (requests : List Command.Request) (like command : String) :
    Pattern.read (Pattern.Like.source like) = .ok (Pattern.Like.pattern like) ∧
      ∃ accepted later,
        matchesCached ⟨like, .like⟩ (Command.Cache.empty.afterAll requests) command =
          .ok (accepted, later) ∧
        matches? ⟨like, .like⟩ command = .ok accepted ∧
        (accepted = true ↔ Pattern.Like.Describes like.toList command.toList) := by
  have faithful := Command.Cache.empty_isFaithful.afterAll requests
  have matched := like_matches? like command
  obtain ⟨later, answer, -⟩ := matchesCached_answers matched _ faithful
  exact ⟨Pattern.Like.read_source like, Pattern.Like.accepts like command, later, answer, matched,
    Pattern.Like.accepts_iff like command⟩

end CommandPattern

end BuildLog
