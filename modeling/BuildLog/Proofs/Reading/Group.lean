import BuildLog.Proofs.Reading.Loaded
import BuildLog.Proofs.Registry.Detection

/-! Reading a log by a group. The formats of the group are tried one after another, by priority and
then by their order of registration. One that refuses the log, finds nothing in it or gives up, at
whichever point, hands the log on to the next; the first that finds events ends the search. -/
namespace BuildLog

open Registry

namespace Context

/-- Tried after the notices `told`, the format yields nothing: it refuses the log or gives up when
it is asked, or it accepts the log and then finds no event or gives up; `told'` are the notices
behind it. -/
inductive Passes [Host] (c : Context) (content : String) (told : Array Notice) (f : Format) :
    Array Notice → Prop
  | refused {told'} (asked : f.acceptsLog content told = (.ok false, told')) :
    Passes c content told f told'
  | unanswered {e told'} (asked : f.acceptsLog content told = (.error e, told')) :
    Passes c content told f told'
  | empty {middle told'} (asked : f.acceptsLog content told = (.ok true, middle))
    (read : c.run f content middle = (.ok [], told')) : Passes c content told f told'
  | failed {middle e told'} (asked : f.acceptsLog content told = (.ok true, middle))
    (read : c.run f content middle = (.error e, told')) : Passes c content told f told'

structure Yields [Host] (c : Context) (content : String) (told : Array Notice) (f : Format)
    (events : List Event) (told' : Array Notice) : Prop where
  found : events ≠ []
  read : ∃ middle, f.acceptsLog content told = (.ok true, middle) ∧
    c.run f content middle = (.ok events, told')

inductive AllPass [Host] (c : Context) (content : String) :
    Array Notice → List Registration → Array Notice → Prop
  | nil {told} : AllPass c content told [] told
  | cons {told middle told' r rest} (first : c.Passes content told r.format middle)
    (later : AllPass c content middle rest told') : AllPass c content told (r :: rest) told'

/-- Tried in this order, `r` is the first format that yields events; `before` are those passed. -/
def YieldsAfter [Host] (c : Context) (content : String) (told : Array Notice)
    (before : List Registration) (r : Registration) (events : List Event)
    (told' : Array Notice) : Prop :=
  ∃ middle, c.AllPass content told before middle ∧ c.Yields content middle r.format events told'

variable [Host] {c : Context} {content : String} {told middle told' : Array Notice}
    {r : Registration}

theorem passes_or_yields (c : Context) (content : String) (told : Array Notice) (f : Format) :
    (∃ told', c.Passes content told f told') ∨
      ∃ events told', c.Yields content told f events told' := by
  rcases asked : f.acceptsLog content told with ⟨e | _ | _, middle⟩
  · exact .inl ⟨middle, .unanswered asked⟩
  · exact .inl ⟨middle, .refused asked⟩
  · rcases read : c.run f content middle with ⟨e | events, told'⟩
    · exact .inl ⟨told', .failed asked read⟩
    · by_cases empty : events = []
      · subst empty
        exact .inl ⟨told', .empty asked read⟩
      · exact .inr ⟨events, told', empty, middle, asked, read⟩

theorem runFirst_of_passes (passes : c.Passes content told r.format middle)
    (rest : List Registration) :
    c.runFirst content (r :: rest) told = c.runFirst content rest middle := by
  have nothing : (c.tryRun r.format content).orElse [] told = (.ok [], middle) := by
    rw [Run.orElse_apply, tryRun, Run.bind_apply]
    cases passes with
    | refused asked => rw [asked]; rfl
    | unanswered asked => rw [asked]
    | empty asked read => rw [asked]; simp only [if_true, read]
    | failed asked read => rw [asked]; simp only [if_true, read]
  rw [runFirst, Run.bind_apply, nothing]
  rfl

theorem runFirst_of_yields {events : List Event}
    (yields : c.Yields content told r.format events told') (rest : List Registration) :
    c.runFirst content (r :: rest) told = (.ok events, told') := by
  obtain ⟨found, middle, asked, read⟩ := yields
  have some : (c.tryRun r.format content).orElse [] told = (.ok events, told') := by
    rw [Run.orElse_apply, tryRun, Run.bind_apply, asked]
    simp only [if_true, read]
  rw [runFirst, Run.bind_apply, some]
  simp [found]

theorem runFirst_of_allPass {before : List Registration}
    (passing : c.AllPass content told before told') (rest : List Registration) :
    c.runFirst content (before ++ rest) told = c.runFirst content rest told' := by
  induction passing with
  | nil => rfl
  | cons first _ ih => rw [List.cons_append, runFirst_of_passes first, ih]

/-- Either all formats are passed or one yields events after those before it were passed. -/
theorem allPass_or_yieldsAfter (c : Context) (content : String) (told : Array Notice)
    (members : List Registration) :
    (∃ told', c.AllPass content told members told') ∨
      ∃ before r after events told', members = before ++ r :: after ∧
        c.YieldsAfter content told before r events told' := by
  induction members generalizing told with
  | nil => exact .inl ⟨told, .nil⟩
  | cons r rest ih =>
    rcases c.passes_or_yields content told r.format with ⟨middle, passed⟩ | ⟨events, told', yields⟩
    · rcases ih middle with ⟨told', all⟩ |
        ⟨before, s, after, events, told', rfl, last, passing, yields⟩
      · exact .inl ⟨told', .cons passed all⟩
      · exact .inr ⟨r :: before, s, after, events, told', rfl, last, .cons passed passing, yields⟩
    · exact .inr ⟨[], r, rest, events, told', rfl, told, .nil, yields⟩

theorem runFirst_of_yieldsAfter {before : List Registration} {events : List Event}
    (yields : c.YieldsAfter content told before r events told') (after : List Registration) :
    c.runFirst content (before ++ r :: after) told = (.ok events, told') := by
  obtain ⟨middle, passing, yields⟩ := yields
  rw [runFirst_of_allPass passing, runFirst_of_yields yields]

/-- Trying formats always ends with an answer. -/
theorem runFirst_ok (c : Context) (content : String) (told : Array Notice)
    (members : List Registration) :
    ∃ events told', c.runFirst content members told = (.ok events, told') := by
  rcases c.allPass_or_yieldsAfter content told members with
    ⟨told', all⟩ | ⟨before, r, after, events, told', rfl, yields⟩
  · refine ⟨[], told', ?_⟩
    have passed := runFirst_of_allPass all []
    rwa [List.append_nil] at passed
  · exact ⟨events, told', runFirst_of_yieldsAfter yields after⟩

theorem runFirst_eq_nil_iff (c : Context) (content : String) (told told' : Array Notice)
    (members : List Registration) :
    c.runFirst content members told = (.ok [], told') ↔ c.AllPass content told members told' := by
  constructor
  · intro done
    rcases c.allPass_or_yieldsAfter content told members with
      ⟨last, all⟩ | ⟨before, r, after, events, last, rfl, yields⟩
    · have passed := runFirst_of_allPass all []
      rw [List.append_nil, done] at passed
      obtain rfl : told' = last := congrArg Prod.snd passed
      exact all
    · rw [runFirst_of_yieldsAfter yields] at done
      obtain ⟨_, _, found, _⟩ := yields
      exact absurd (Except.ok.inj (congrArg Prod.fst done)) found
  · intro all
    have passed := runFirst_of_allPass all []
    rwa [List.append_nil] at passed

theorem runFirst_eq_found_iff (c : Context) (content : String) (told told' : Array Notice)
    (members : List Registration) {events : List Event} (found : events ≠ []) :
    c.runFirst content members told = (.ok events, told') ↔
      ∃ before r after, members = before ++ r :: after ∧
        c.YieldsAfter content told before r events told' := by
  constructor
  · intro done
    rcases c.allPass_or_yieldsAfter content told members with
      ⟨last, all⟩ | ⟨before, r, after, read, last, rfl, yields⟩
    · rw [(c.runFirst_eq_nil_iff content told last members).mpr all] at done
      exact absurd (Except.ok.inj (congrArg Prod.fst done)).symm found
    · rw [runFirst_of_yieldsAfter yields] at done
      cases done
      exact ⟨before, r, after, rfl, yields⟩
  · rintro ⟨before, r, after, rfl, yields⟩
    exact runFirst_of_yieldsAfter yields after

end Context

namespace Registry

def listing (present : List Registration) (tag : String) : List (Registration × Nat) :=
  present.zipIdx.filter (tag ∈ ·.1.profile.groups)

/-- The formats of a group in the one order in which each outranks those behind it. -/
theorem inGroup_outranks {g : Registry} (valid : g.Consistent) (tag : String) :
    ∃ order : List (Registration × Nat), order.map (·.1) = g.inGroup tag ∧
      order.Perm (listing g.entries tag) ∧ order.Pairwise Outranks := by
  obtain ⟨order, view, perm, outranks⟩ := byPriority_outranks g.entries
  refine ⟨order.filter (tag ∈ ·.1.profile.groups), ?_, perm.filter _, outranks.filter _⟩
  rw [inGroup, valid.ranked_eq, ← view, List.filter_map]
  congr 1
  apply List.filter_congr
  intro placed _
  simp

end Registry

namespace Context

open Specifier (IsPlainName)

theorem parse_groupName [Host] {c : Context} {tag : String} (plain : IsPlainName tag)
    (filled : tag.isEmpty = false) (trimmed : Text.stripped tag = tag)
    (group : c.registry.isGroup tag = true) (content : String) :
    c.parse content tag = c.runFirst content (c.registry.inGroup tag) := by
  have single := Specifier.parts_eq_singleton plain.whole
  rw [parse_of_single single (plain.ofText_eq filled trimmed), resolve_group group]
  rfl

/-- Whatever was registered and taken out before, and whatever the formats do when they are asked
or read the log, reading by a group ends without a fault. It finds nothing exactly if every format
of the group is passed; and it finds the events of the first format that yields any, after every
format of the group that outranks it was passed. -/
theorem parse_group [Host] (ops : List Operation) (c : Context) (content : String) {tag : String}
    (plain : IsPlainName tag) (filled : tag ≠ "") (trimmed : Text.stripped tag = tag)
    (listed : ∃ r ∈ present ops, tag ∈ r.profile.groups) (told : Array Notice) :
    let d := { c with registry := Registry.empty.performAll ops }
    let members := listing (present ops) tag
    (∃ events told', d.parse content tag told = (.ok events, told')) ∧
    ∃ order, order.Perm members ∧ order.Pairwise Outranks ∧
      (∀ told', d.parse content tag told = (.ok [], told') ↔
        d.AllPass content told (order.map (·.1)) told') ∧
      ∀ events told', events ≠ [] → (d.parse content tag told = (.ok events, told') ↔
        ∃ before r place after, order = before ++ (r, place) :: after ∧
          (∀ other ∈ members, Outranks other (r, place) → other ∈ before) ∧
          d.YieldsAfter content told (before.map (·.1)) r events told') := by
  intro d members
  have valid : d.registry.Consistent := performAll_consistent empty_consistent ops
  have entries : d.registry.entries = present ops := performAll_entries empty_consistent ops
  have group : d.registry.isGroup tag = true := by
    obtain ⟨r, member, tagged⟩ := listed
    rw [isGroup, entries, List.any_eq_true]
    exact ⟨r, member, by simpa using tagged⟩
  obtain ⟨order, view, perm, outranks⟩ := inGroup_outranks valid tag
  rw [entries] at perm
  have tries : d.parse content tag = d.runFirst content (order.map (·.1)) := by
    rw [parse_groupName plain (by simpa using filled) trimmed group, view]
  rw [tries]
  refine ⟨d.runFirst_ok content told _, order, perm, outranks,
    fun told' => d.runFirst_eq_nil_iff _ _ _ _, fun events told' found => ?_⟩
  rw [runFirst_eq_found_iff _ _ _ _ _ found]
  constructor
  · rintro ⟨_, _, _, split, yields⟩
    obtain ⟨before, behind, rfl, rfl, rest⟩ := List.map_eq_append_iff.mp split
    obtain ⟨⟨s, place⟩, after, rfl, rfl, rfl⟩ := List.map_eq_cons_iff.mp rest
    refine ⟨before, s, place, after, rfl, ?_, yields⟩
    intro other member better
    exact mem_before_of_outranks outranks (perm.mem_iff.mpr member) better
  · rintro ⟨before, r, place, after, rfl, -, yields⟩
    exact ⟨before.map (·.1), r, after.map (·.1), by simp, yields⟩

/-- A format of the group `g` that does the same with each log. -/
def grouped (name : String) (priority : Int) (accepts : Run Bool) (parse : Run (List Event)) :
    Format where
  profile := { format := name, priority, groups := ["g"] }
  accepts _ := accepts
  parse _ := parse

/-- Behind one that gives up when it is asked and three of lower priority that yield nothing, each
in its own way, stands the one that finds an event, before another of its priority. -/
def patchyOperations : List Operation := [
  .add ⟨0, grouped "low" 1 (pure true) (pure [{ tool := "low" }])⟩,
  .add ⟨1, grouped "refuses" 5 (pure false) (pure [{ tool := "refuses" }])⟩,
  .add ⟨2, grouped "breaks" 5 (pure true) (throw .format)⟩,
  .add ⟨3, grouped "finds nothing" 5 (pure true) (pure [])⟩,
  .add ⟨4, grouped "finds" 5 (pure true) (pure [{ tool := "finds" }])⟩,
  .add ⟨5, grouped "later" 5 (pure true) (pure [{ tool := "later" }])⟩,
  .add ⟨6, grouped "unanswered" 9 (throw .format) (pure [{ tool := "unanswered" }])⟩]

theorem parse_group_patchy :
    let d : Context := { registry := Registry.empty.performAll patchyOperations }
    let members := listing (present patchyOperations) "g"
    IsPlainName "g" ∧ Text.stripped "g" = "g" ∧
    (∃ r ∈ present patchyOperations, "g" ∈ r.profile.groups) ∧
    d.parse "x" "g" #[] = (.ok [{ tool := "finds" }], #[]) ∧
    ∃ order, order.Perm members ∧ order.Pairwise Outranks ∧
      ∃ before r place after, order = before ++ (r, place) :: after ∧
        (∀ other ∈ members, Outranks other (r, place) → other ∈ before) ∧
        d.YieldsAfter "x" #[] (before.map (·.1)) r [{ tool := "finds" }] #[] := by
  intro d members
  have plain : IsPlainName "g" := ⟨by decide, by decide, by decide, by decide⟩
  have trimmed : Text.stripped "g" = "g" := by decide
  have listed : ∃ r ∈ present patchyOperations, "g" ∈ r.profile.groups := by decide
  let ranked := [6, 1, 2, 3, 4, 5, 0].filterMap ((present patchyOperations).zipIdx[·]?)
  have places : [6, 1, 2, 3, 4, 5, 0].Perm [0, 1, 2, 3, 4, 5, 6] := by decide
  have perm : ranked.Perm (present patchyOperations).zipIdx := places.filterMap _
  have sorted : d.registry.ranked = ranked.map (·.1) :=
    (performAll_consistent empty_consistent _).ranked_eq.trans (byPriority_eq perm (by decide))
  have tried : d.runFirst "x" (d.registry.inGroup "g") #[] =
      (.ok [{ tool := "finds" }], #[]) := by
    rw [Registry.inGroup, sorted]
    rfl
  have read : d.parse "x" "g" #[] = (.ok [{ tool := "finds" }], #[]) := by
    rw [parse_groupName plain (by decide) trimmed (by decide), tried]
  obtain ⟨-, order, perm, outranks, -, finds⟩ :=
    parse_group patchyOperations {} "x" plain (by decide) trimmed listed #[]
  exact ⟨plain, trimmed, listed, read, order, perm, outranks, (finds _ _ (by simp)).mp read⟩

end Context

end BuildLog
