import BuildLog.Proofs.Registry.History
import BuildLog.Proofs.Run

/-! Recognising a log. The registered formats are asked one after another, by priority and then by
their order of registration, and each is shown the payload of its own family. The first that
accepts is chosen; one that gives up is passed over like one that refuses. -/
namespace BuildLog.Registry

section Payloads

variable {content : String} {taken : List (Family × String)}

def AreTaken (content : String) (taken : List (Family × String)) : Prop :=
  ∀ family payload, taken.lookup family = some payload → payload = family.payload content

theorem areTaken_nil : AreTaken content [] := by
  intro family payload found
  cases found

theorem takePayload_payload (valid : AreTaken content taken) (family : Family) :
    (takePayload content taken family).1 = family.payload content := by
  unfold takePayload
  split
  next payload found => exact valid family payload found
  next => rfl

theorem takePayload_areTaken (valid : AreTaken content taken) (family : Family) :
    AreTaken content (takePayload content taken family).2 := by
  unfold takePayload
  split
  next => exact valid
  next =>
    intro other payload found
    rw [List.lookup_cons] at found
    by_cases same : other = family
    · subst same
      simpa using found.symm
    · have apart : (other == family) = false := by simpa using same
      rw [apart] at found
      exact valid other payload found

theorem acceptingFrom?_cons (valid : AreTaken content taken) (r : Registration)
    (rest : List Registration) :
    acceptingFrom? content taken (r :: rest) = (do
      if ← (r.format.acceptsLog content).orElse false then return some r
      else acceptingFrom? content (takePayload content taken r.profile.family).2 rest) := by
  rw [acceptingFrom?]
  simp only [takePayload_payload valid]
  rfl

/-- What was taken before does not matter. -/
theorem acceptingFrom?_eq (valid : AreTaken content taken) (members : List Registration) :
    acceptingFrom? content taken members = accepting? content members := by
  unfold accepting?
  induction members generalizing taken with
  | nil => rfl
  | cons r rest ih =>
    have later := ih (takePayload_areTaken valid r.profile.family)
    have begun := ih (takePayload_areTaken areTaken_nil r.profile.family)
    rw [acceptingFrom?_cons valid, acceptingFrom?_cons areTaken_nil, later, begun]

end Payloads

@[simp] theorem accepting?_nil (content : String) : accepting? content [] = pure none := rfl

theorem accepting?_cons (content : String) (r : Registration) (rest : List Registration) :
    accepting? content (r :: rest) = (do
      if ← (r.format.acceptsLog content).orElse false then return some r
      else accepting? content rest) := by
  rw [accepting?, acceptingFrom?_cons areTaken_nil,
    acceptingFrom?_eq (takePayload_areTaken areTaken_nil r.profile.family)]

/-- Asked about the log after the notices `told`, the format refuses it or gives up on it. -/
def Declines (content : String) (told : Array Notice) (r : Registration) (told' : Array Notice) :
    Prop :=
  r.format.acceptsLog content told = (.ok false, told') ∨
    ∃ e, r.format.acceptsLog content told = (.error e, told')

/-- Asked one after another, all formats decline; `told'` are the notices in the end. -/
inductive AllDecline (content : String) : Array Notice → List Registration → Array Notice → Prop
  | nil {told} : AllDecline content told [] told
  | cons {told middle told' r rest} (first : Declines content told r middle)
      (later : AllDecline content middle rest told') : AllDecline content told (r :: rest) told'

/-- Asked in this order, `r` is the first format that accepts; `before` are those that declined. -/
def AcceptsAfter (content : String) (told : Array Notice) (before : List Registration)
    (r : Registration) (told' : Array Notice) : Prop :=
  ∃ middle, AllDecline content told before middle ∧
    r.format.acceptsLog content middle = (.ok true, told')

/-- A format that declines hands the question on. -/
theorem accepting?_of_declines {content : String} {told middle : Array Notice} {r : Registration}
    (declines : Declines content told r middle) (rest : List Registration) :
    accepting? content (r :: rest) told = accepting? content rest middle := by
  rw [accepting?_cons, Run.bind_apply, Run.orElse_apply]
  rcases declines with refused | ⟨e, gaveUp⟩
  · rw [refused]
    rfl
  · rw [gaveUp]
    rfl

theorem accepting?_of_accepts {content : String} {told told' : Array Notice} {r : Registration}
    (accepts : r.format.acceptsLog content told = (.ok true, told')) (rest : List Registration) :
    accepting? content (r :: rest) told = (.ok (some r), told') := by
  rw [accepting?_cons, Run.bind_apply, Run.orElse_apply, accepts]
  rfl

theorem accepting?_of_allDecline {content : String} {told told' : Array Notice}
    {before : List Registration} (declining : AllDecline content told before told')
    (rest : List Registration) :
    accepting? content (before ++ rest) told = accepting? content rest told' := by
  induction declining with
  | nil => rfl
  | cons first _ ih => rw [List.cons_append, accepting?_of_declines first, ih]

/-- Either all formats decline or one accepts after those before it have declined. -/
theorem allDecline_or_accepts (content : String) (told : Array Notice)
    (members : List Registration) :
    (∃ told', AllDecline content told members told') ∨
    ∃ before r after told', members = before ++ r :: after ∧
      AcceptsAfter content told before r told' := by
  induction members generalizing told with
  | nil => exact .inl ⟨told, .nil⟩
  | cons r rest ih =>
    have handedOn {middle : Array Notice} (first : Declines content told r middle) :
        (∃ told', AllDecline content told (r :: rest) told') ∨
        ∃ before s after told', r :: rest = before ++ s :: after ∧
          AcceptsAfter content told before s told' := by
      rcases ih middle with ⟨told', all⟩ | ⟨before, s, after, told', rfl, last, later, accepts⟩
      · exact .inl ⟨told', .cons first all⟩
      · exact .inr ⟨r :: before, s, after, told', rfl, last, .cons first later, accepts⟩
    rcases asked : r.format.acceptsLog content told with ⟨e | _ | _, middle⟩
    · exact handedOn (.inr ⟨e, asked⟩)
    · exact handedOn (.inl asked)
    · exact .inr ⟨[], r, rest, middle, rfl, told, .nil, asked⟩

theorem accepting?_eq_none (content : String) (told told' : Array Notice)
    (members : List Registration) :
    accepting? content members told = (.ok none, told') ↔
      AllDecline content told members told' := by
  constructor
  · intro done
    obtain ⟨last, all⟩ | ⟨before, r, after, last, rfl, middle, declining, accepts⟩ :=
      allDecline_or_accepts content told members
    · have same := accepting?_of_allDecline all []
      rw [List.append_nil, done] at same
      obtain rfl : told' = last := congrArg Prod.snd same
      exact all
    · rw [accepting?_of_allDecline declining, accepting?_of_accepts accepts] at done
      cases congrArg Prod.fst done
  · intro all
    have same := accepting?_of_allDecline all []
    rwa [List.append_nil] at same

theorem accepting?_eq_some (content : String) (told told' : Array Notice)
    (members : List Registration) (r : Registration) :
    accepting? content members told = (.ok (some r), told') ↔
      ∃ before after, members = before ++ r :: after ∧
        AcceptsAfter content told before r told' := by
  constructor
  · intro done
    obtain ⟨last, all⟩ | ⟨before, s, after, last, rfl, middle, declining, accepts⟩ :=
      allDecline_or_accepts content told members
    · rw [(accepting?_eq_none content told last members).mpr all] at done
      cases congrArg Prod.fst done
    · have found := done
      rw [accepting?_of_allDecline declining, accepting?_of_accepts accepts] at found
      cases found
      exact ⟨before, after, rfl, middle, declining, accepts⟩
  · rintro ⟨before, after, rfl, middle, declining, accepts⟩
    rw [accepting?_of_allDecline declining, accepting?_of_accepts accepts]

/-- A registered format with its place in the order of registration comes before another if it has
the greater priority, or with equal priorities was registered earlier. -/
def Outranks (a b : Registration × Nat) : Prop :=
  b.1.profile.priority < a.1.profile.priority ∨
    (a.1.profile.priority = b.1.profile.priority ∧ a.2 < b.2)

instance (a b : Registration × Nat) : Decidable (Outranks a b) :=
  inferInstanceAs (Decidable (_ ∨ _))

theorem Outranks.asymm {a b : Registration × Nat} (first : Outranks a b) : ¬Outranks b a := by
  unfold Outranks at *
  omega

/-- In such an order a format stands behind all that outrank it. -/
theorem mem_before_of_outranks {before after : List (Registration × Nat)}
    {a b : Registration × Nat} (ordered : (before ++ a :: after).Pairwise Outranks)
    (member : b ∈ before ++ a :: after) (better : Outranks b a) : b ∈ before := by
  obtain ⟨-, behind, -⟩ := List.pairwise_append.mp ordered
  rcases List.mem_append.mp member with inside | later
  · exact inside
  · rcases List.mem_cons.mp later with rfl | last
    · exact absurd better better.asymm
    · exact absurd better (List.rel_of_pairwise_cons behind last).asymm

/-- In the view by priority every format outranks those behind it. -/
theorem byPriority_outranks (entries : List Registration) :
    ∃ order : List (Registration × Nat), order.map (·.1) = byPriority entries ∧
      order.Perm entries.zipIdx ∧ order.Pairwise Outranks := by
  let le := List.zipIdxLE ranksBefore
  let order := entries.zipIdx.mergeSort le
  have perm : order.Perm entries.zipIdx := List.mergeSort_perm _ _
  have sorted : order.Pairwise fun a b => le a b = true :=
    List.pairwise_mergeSort (List.zipIdxLE_trans ranksBefore_ranking.trans)
      (List.zipIdxLE_total ranksBefore_ranking.total) _
  have places : order.Pairwise fun a b => a.2 ≠ b.2 := by
    have distinct : (order.map (·.2)).Nodup := by
      rw [(perm.map (·.2)).nodup_iff, List.zipIdx_map_snd]
      exact List.nodup_range'
    exact List.pairwise_map.mp distinct
  refine ⟨order, List.mergeSort_zipIdx, perm, sorted.imp₂ ?_ places⟩
  intro a b before apart
  simp only [le, List.zipIdxLE, ranksBefore, decide_eq_true_eq] at before
  unfold Outranks
  split at before
  · split at before
    · simp only [decide_eq_true_eq] at before
      omega
    · omega
  · contradiction

/-- There is one order only in which every format outranks those behind it. -/
theorem byPriority_eq {entries : List Registration} {order : List (Registration × Nat)}
    (perm : order.Perm entries.zipIdx) (outranks : order.Pairwise Outranks) :
    byPriority entries = order.map (·.1) := by
  obtain ⟨other, view, perm', outranks'⟩ := byPriority_outranks entries
  have same : other = order := (perm'.trans perm.symm).eq_of_pairwise
    (fun a b _ _ first second => absurd second first.asymm) outranks' outranks
  rw [← view, same]

/-- Whatever was registered and taken out before, and whatever the formats do when they are asked,
the choice ends without a fault. No format is chosen exactly if all that are registered decline;
and the chosen one accepts the payload of its family, after every format that outranks it has
declined that of its own. -/
theorem detect_performAll (ops : List Operation) (content : String) (told : Array Notice) :
    let g := empty.performAll ops
    let registered := (present ops).zipIdx
    (∃ found told', g.detect content told = (.ok found, told')) ∧
    ∃ order, order.Perm registered ∧ order.Pairwise Outranks ∧
      (∀ told', g.detect content told = (.ok none, told') ↔
        AllDecline content told (order.map (·.1)) told') ∧
      ∀ r told', g.detect content told = (.ok (some r), told') ↔
        ∃ before place after, order = before ++ (r, place) :: after ∧
          (∀ other ∈ registered, Outranks other (r, place) → other ∈ before) ∧
          AcceptsAfter content told (before.map (·.1)) r told' := by
  intro g registered
  have valid : g.Consistent := performAll_consistent empty_consistent ops
  have entries : g.entries = present ops := performAll_entries empty_consistent ops
  obtain ⟨order, view, perm, outranks⟩ := byPriority_outranks (present ops)
  have detects : g.detect content = accepting? content (order.map (·.1)) := by
    rw [detect, valid.ranked_eq, entries, view]
  rw [detects]
  refine ⟨?_, order, perm, outranks, fun told' => accepting?_eq_none _ _ _ _, fun r told' => ?_⟩
  · obtain ⟨told', all⟩ | ⟨before, r, after, told', split, accepts⟩ :=
      allDecline_or_accepts content told (order.map (·.1))
    · exact ⟨none, told', (accepting?_eq_none _ _ _ _).mpr all⟩
    · exact ⟨some r, told', (accepting?_eq_some _ _ _ _ _).mpr ⟨before, after, split, accepts⟩⟩
  · rw [accepting?_eq_some]
    constructor
    · rintro ⟨_, _, split, accepts⟩
      obtain ⟨before, behind, rfl, rfl, rest⟩ := List.map_eq_append_iff.mp split
      obtain ⟨⟨s, place⟩, after, rfl, rfl, rfl⟩ := List.map_eq_cons_iff.mp rest
      refine ⟨before, place, after, rfl, fun other member better => ?_, accepts⟩
      exact mem_before_of_outranks outranks (perm.mem_iff.mpr member) better
    · rintro ⟨before, place, after, rfl, -, accepts⟩
      exact ⟨before.map (·.1), after.map (·.1), by simp, accepts⟩

end BuildLog.Registry
