import BuildLog.Proofs.Command.Cache
import Mathlib.Data.Finset.Card
import Mathlib.Data.List.Induction

/-! Patterns kept from one request to the next. A request is answered as if nothing were kept, and
a pattern is compiled when it is asked for first, faulty or not, and not again before all of them
are forgotten. Patterns that overtax the reader are not kept; they are left out of the counts. -/
namespace BuildLog

namespace Command

abbrev Key : Type := CommandKind × String

def Key.source : Key → String
  | (.like, pattern) => Pattern.Like.source pattern
  | (_, pattern) => pattern

def compileText? [Host] (source : String) : Except Pattern.Error (Option Pattern) :=
  match Pattern.read source with
  | .ok p => .ok (some p)
  | .error (.fault _) => .ok none
  | .error e => .error e

theorem compile?_eq [Host] (kind : CommandKind) (pattern : String) :
    compile? kind pattern = compileText? (Key.source (kind, pattern)) := by
  cases kind with
  | like => rw [Key.source, compileText?, Pattern.Like.read_source, compile?]
  | _ => rfl

def Cache.getBy [Monad m] (compile : Key → m (Option Pattern)) (cache : Cache) (key : Key) :
    m (Option Pattern × Cache) :=
  match cache.entries.lookup key with
  | some compiled => pure (compiled, cache)
  | none => do
    let compiled ← compile key
    return (compiled, ⟨(key, compiled) :: cache.entries⟩)

theorem Cache.get_eq_getBy [Host] (cache : Cache) (kind : CommandKind) (pattern : String) :
    cache.get kind pattern = cache.getBy (fun key => compile? key.1 key.2) (kind, pattern) := by
  rw [get, getBy]
  cases cache.entries.lookup (kind, pattern) with
  | some compiled => rfl
  | none => cases compile? kind pattern <;> rfl

/-- Compiling that is written down, whatever comes of it; the last one stands first. -/
def compileTold [Host] (key : Key) : ExceptT Pattern.Error (StateM (List Key)) (Option Pattern) :=
  fun told => (compile? key.1 key.2, key :: told)

theorem Cache.getBy_told [Host] (cache : Cache) (kind : CommandKind) (pattern : String)
    (told : List Key) :
    cache.getBy compileTold (kind, pattern) told =
      (cache.get kind pattern,
        if (cache.entries.lookup (kind, pattern)).isSome then told else (kind, pattern) :: told) := by
  rw [get_eq_getBy, getBy, getBy]
  cases cache.entries.lookup (kind, pattern) with
  | some compiled => rfl
  | none =>
    dsimp only [bind, ExceptT.bind, ExceptT.mk, StateT.bind, compileTold]
    cases compile? kind pattern <;> rfl

def Request.key? : Request → Option Key
  | .get kind pattern => some (kind, pattern)
  | .clear => none

/-- The patterns asked for since all were forgotten, the last one first. -/
def askedSince (requests : List Request) : List Key :=
  (requests.reverse.takeWhile (·.key?.isSome)).filterMap Request.key?

theorem askedSince_clear (requests : List Request) : askedSince (requests ++ [.clear]) = [] := by
  simp [askedSince, Request.key?]

theorem askedSince_get (requests : List Request) (kind : CommandKind) (pattern : String) :
    askedSince (requests ++ [.get kind pattern]) = (kind, pattern) :: askedSince requests := by
  simp [askedSince, Request.key?]

/-- The patterns kept, and what was compiled since all were forgotten, the last one first. -/
structure Session where
  cache : Cache := .empty
  compiled : List Key := []

namespace Session

/-- The patterns kept after a request, with what it compiled; one that gives up leaves none. -/
def after [Host] (s : Session) : Request → Session
  | .get kind pattern =>
    match s.cache.getBy compileTold (kind, pattern) s.compiled with
    | (.ok (_, later), compiled) => ⟨later, compiled⟩
    | (.error _, compiled) => { s with compiled }
  | .clear => {}

def afterAll [Host] (requests : List Request) : Session := requests.foldl after {}

theorem afterAll_concat [Host] (requests : List Request) (request : Request) :
    afterAll (requests ++ [request]) = (afterAll requests).after request := by
  simp [afterAll]

/-- Writing down what is compiled changes nothing of what is kept. -/
theorem after_cache [Host] (s : Session) (request : Request) :
    (s.after request).cache = s.cache.after request := by
  cases request with
  | clear => rfl
  | get kind pattern =>
    rw [after, Cache.getBy_told, Cache.after]
    cases s.cache.get kind pattern <;> rfl

theorem afterAll_cache [Host] (requests : List Request) :
    (afterAll requests).cache = Cache.empty.afterAll requests := by
  induction requests using List.reverseRecOn with
  | nil => rfl
  | append_singleton requests request ih =>
    rw [afterAll_concat, after_cache, ih]
    simp [Cache.afterAll]

theorem after_get_known [Host] {s : Session} {kind : CommandKind} {pattern : String}
    {compiled : Option Pattern}
    (known : s.cache.entries.lookup (kind, pattern) = some compiled) :
    s.after (.get kind pattern) = s := by
  rw [after, Cache.getBy_told, Cache.get, known]
  rfl

theorem after_get_new [Host] {s : Session} {kind : CommandKind} {pattern : String}
    {compiled : Option Pattern} (unknown : s.cache.entries.lookup (kind, pattern) = none)
    (compiles : compile? kind pattern = .ok compiled) :
    s.after (.get kind pattern) =
      ⟨⟨((kind, pattern), compiled) :: s.cache.entries⟩, (kind, pattern) :: s.compiled⟩ := by
  rw [after, Cache.getBy_told, Cache.get, unknown, compiles]
  rfl

/-- What is kept is what was compiled, each pattern once, and these are the patterns asked for. -/
structure Accounts (s : Session) (asked : List Key) : Prop where
  kept : s.cache.entries.map Prod.fst = s.compiled
  once : s.compiled.Nodup
  all : ∀ key, key ∈ s.compiled ↔ key ∈ asked

theorem start_accounts : Accounts {} [] where
  kept := rfl
  once := List.nodup_nil
  all _ := Iff.rfl

variable {s : Session} {asked : List Key}

theorem Accounts.lookup_eq_none_iff (accounts : s.Accounts asked) (key : Key) :
    s.cache.entries.lookup key = none ↔ key ∉ s.compiled := by
  simp only [← accounts.kept, List.lookup_eq_none_iff, bne_iff_ne, List.mem_map, not_exists,
    not_and]
  exact forall₂_congr fun _ _ => ne_comm

theorem Accounts.get [Host] (accounts : s.Accounts asked) {kind : CommandKind} {pattern : String}
    {compiled : Option Pattern} (compiles : compile? kind pattern = .ok compiled) :
    (s.after (.get kind pattern)).Accounts ((kind, pattern) :: asked) := by
  cases known : s.cache.entries.lookup (kind, pattern) with
  | some earlier =>
    have inside : (kind, pattern) ∈ s.compiled := by
      by_contra outside
      rw [(accounts.lookup_eq_none_iff _).mpr outside] at known
      cases known
    rw [after_get_known known]
    refine ⟨accounts.kept, accounts.once, fun key => ?_⟩
    rw [List.mem_cons, ← accounts.all]
    exact ⟨.inr, fun either => either.elim (fun same => same ▸ inside) id⟩
  | none =>
    have outside := (accounts.lookup_eq_none_iff _).mp known
    rw [after_get_new known compiles]
    refine ⟨by rw [List.map_cons, accounts.kept], accounts.once.cons outside, fun key => ?_⟩
    rw [List.mem_cons, List.mem_cons, accounts.all]

theorem Accounts.size (accounts : s.Accounts asked) :
    s.cache.size = asked.toFinset.card := by
  have same : asked.toFinset = s.compiled.toFinset := by
    ext key
    rw [List.mem_toFinset, List.mem_toFinset, accounts.all]
  rw [same, List.toFinset_card_of_nodup accounts.once, ← accounts.kept, List.length_map, Cache.size]

theorem afterAll_accounts [Host] {requests : List Request}
    (compiling : ∀ key ∈ askedSince requests, ∃ compiled, compile? key.1 key.2 = .ok compiled) :
    (afterAll requests).Accounts (askedSince requests) := by
  -- What was asked for before the last request compiles too, unless that forgets all of it.
  induction requests using List.reverseRecOn with
  | nil => exact start_accounts
  | append_singleton requests request ih =>
    rw [afterAll_concat]
    cases request with
    | clear =>
      rw [askedSince_clear]
      exact start_accounts
    | get kind pattern =>
      rw [askedSince_get] at compiling ⊢
      obtain ⟨⟨compiled, compiles⟩, earlier⟩ := List.forall_mem_cons.mp compiling
      exact (ih earlier).get compiles

/-- Whatever was asked for before and whenever all was forgotten, a request brings what its text is
compiled to, and a command is matched as if nothing were kept. Provided that no text asked for since
then overtaxes the reader, each of these was compiled once, faulty ones included, and so many are
kept. -/
theorem afterAll_transparent [Host] (requests : List Request) :
    let s := afterAll requests
    let asked := askedSince requests
    s.cache = Cache.empty.afterAll requests ∧
    (∀ key : Key, (s.cache.get key.1 key.2).map Prod.fst = compileText? key.source) ∧
    ((∀ key ∈ asked, ∃ compiled, compileText? key.source = .ok compiled) →
      s.compiled.Nodup ∧ (∀ key, key ∈ s.compiled ↔ key ∈ asked) ∧
        s.cache.size = asked.toFinset.card) ∧
    ∀ (p : CommandPattern) (command : String),
      (p.matchesCached s.cache command).map Prod.fst = p.matches? command := by
  intro s asked
  have kept : s.cache = Cache.empty.afterAll requests := afterAll_cache requests
  have faithful : s.cache.IsFaithful := kept ▸ Cache.empty_isFaithful.afterAll requests
  refine ⟨kept, fun key => ?_, fun compiling => ?_, fun p command => ?_⟩
  · rw [faithful.get_eq, compile?_eq]
  · have accounts : s.Accounts asked := afterAll_accounts fun key member => by
      rw [compile?_eq]
      exact compiling key member
    exact ⟨accounts.once, accounts.all, accounts.size⟩
  · exact CommandPattern.matchesCached_eq faithful p command

/-- A faulty text asked for twice, and once as a pattern of another kind, which is not faulty. -/
theorem afterAll_transparent_faulty :
    let requests : List Request :=
      [.get .regexp "x", .clear, .get .regexp "(", .get .like "(", .get .regexp "("]
    (∀ key ∈ askedSince requests, ∃ compiled, compileText? key.source = .ok compiled) ∧
      (afterAll requests).compiled.Nodup ∧ (afterAll requests).cache.size = 2 := by
  intro requests
  have faulty : compileText? (Key.source (.regexp, "(")) = .ok none := by cbv
  have plain : compileText? (Key.source (.like, "(")) = .ok (some (Pattern.Like.pattern "(")) :=
    (compile?_eq .like "(").symm
  have asked : askedSince requests = [(.regexp, "("), (.like, "("), (.regexp, "(")] := rfl
  have compiling : ∀ key ∈ askedSince requests,
      ∃ compiled, compileText? key.source = .ok compiled := by
    rw [asked]
    simp [faulty, plain]
  obtain ⟨-, -, counted, -⟩ := afterAll_transparent requests
  obtain ⟨once, -, size⟩ := counted compiling
  refine ⟨compiling, once, ?_⟩
  rw [size, asked]
  rfl

end Session

end Command

end BuildLog
