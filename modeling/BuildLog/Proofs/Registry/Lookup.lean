import BuildLog.Proofs.Command.Cache
import BuildLog.Proofs.Registry.Commands
import BuildLog.Proofs.Registry.Detection

/-! The look-up of a format for a command. Of all registered formats that know the command it finds
the one that outranks the others, however the view by priority came about and whatever patterns were
compiled before; and the folder in front of the program makes no difference. -/
namespace BuildLog

open Text

namespace Command

variable {folder : List Char}

/-- Trimming ends at a character that is not blank. -/
theorem trimEnd_append_cons {c : Char} (solid : isBlank c = false) (before after : List Char) :
    trimEnd (before ++ c :: after) = before ++ c :: trimEnd after := by
  have reversed : (before ++ c :: after).reverse = after.reverse ++ c :: before.reverse := by simp
  rw [trimEnd, trimEnd, reversed, List.dropWhile_append]
  split
  next blank => simp [solid, List.isEmpty_iff.mp blank]
  next => simp

theorem trimStart_eq_self {cs : List Char} (solid : ∀ c ∈ cs.head?, isBlank c = false) :
    trimStart cs = cs := by
  cases cs with
  | nil => rfl
  | cons c cs => simp [trimStart, solid c rfl]

theorem trim_folder (clean : ∀ c ∈ folder, isBlank c = false) {command : List Char}
    (solid : ∀ c ∈ command.head?, isBlank c = false) :
    trim (folder ++ '/' :: command) = folder ++ '/' :: trim command := by
  have first : ∀ c ∈ (folder ++ '/' :: command).head?, isBlank c = false := by
    intro c head
    cases folder with
    | nil =>
      cases head
      rfl
    | cons d rest =>
      cases head
      exact clean c (by simp)
  rw [trim, trim, trimStart_eq_self first, trimStart_eq_self solid, trimEnd_append_cons rfl]

theorem afterLastSlash_folder (folder program : List Char) :
    afterLastSlash (folder ++ '/' :: program) = afterLastSlash program := by
  have reversed :
      (folder ++ '/' :: program).reverse = program.reverse ++ '/' :: folder.reverse := by simp
  rw [afterLastSlash, afterLastSlash, reversed, List.takeWhile_append]
  split
  next whole => simp [(List.takeWhile_prefix _).eq_of_length whole]
  next => rfl

/-- The folder of a program is left out, whatever slashes it holds. -/
theorem normalize_folder {folder command : String}
    (clean : ∀ c ∈ folder.toList, isBlank c = false)
    (solid : ∀ c ∈ command.toList.head?, isBlank c = false) :
    normalize (folder ++ "/" ++ command) = normalize command := by
  have spaceless : ∀ c ∈ folder.toList ++ ['/'], (c != ' ') = true := by
    intro c member
    rcases List.mem_append.mp member with inside | slash
    · rw [bne_iff_ne]
      rintro rfl
      exact absurd (clean ' ' inside) (by decide)
    · rw [List.mem_singleton.mp slash]
      decide
  have spelled : (folder ++ "/" ++ command).toList = folder.toList ++ '/' :: command.toList := by
    simp
  have program : (folder.toList ++ '/' :: trim command.toList).takeWhile (· != ' ') =
      folder.toList ++ '/' :: (trim command.toList).takeWhile (· != ' ') := by
    have taken : (folder.toList ++ ['/'] ++ trim command.toList).takeWhile (· != ' ') = _ :=
      List.takeWhile_append_of_pos spaceless
    simpa using taken
  unfold normalize
  dsimp only
  rw [spelled, trim_folder clean solid, program, afterLastSlash_folder]
  congr 2
  rw [List.drop_append, List.drop_of_length_le (by simp)]
  simp

end Command

namespace CommandPattern

/-- What a pattern says about a normalized command. -/
def Describes [Host] (p : CommandPattern) (command : String) : Prop :=
  match p.kind with
  | .literal => command = p.pattern ∨ (p.pattern ++ " ").toList <+: command.toList
  | .like => Pattern.Like.Describes p.pattern.toList command.toList
  | _ => ∃ compiled, Pattern.read p.pattern = .ok compiled ∧ compiled.finds command = true

theorem startsCommand_iff (pattern command : String) :
    startsCommand pattern command = true ↔
      command = pattern ∨ (pattern ++ " ").toList <+: command.toList := by
  rw [startsCommand, Bool.or_eq_true, beq_iff_eq, startsWith, List.isPrefixOf_iff_prefix]

theorem fits_iff [Host] (p : CommandPattern) (command : String) :
    p.fits command = true ↔ p.Describes command := by
  have searched (kind : CommandKind) (other : kind ≠ .like) (source : String) :
      (((Command.compile? kind source).map (accepts kind · command)).toOption.getD false = true ↔
        ∃ compiled, Pattern.read source = .ok compiled ∧ compiled.finds command = true) := by
    cases kind with
    | like => contradiction
    | _ =>
      cases read : Pattern.read source with
      | ok compiled => simp [Command.compile?, read, Except.map, Except.toOption, accepts]
      | error e => cases e <;> simp [Command.compile?, read, Except.map, Except.toOption, accepts]
  obtain ⟨pattern, kind⟩ := p
  cases kind with
  | literal => exact startsCommand_iff pattern command
  | like => exact Pattern.Like.accepts_iff pattern command
  | regexp => exact searched .regexp (by simp) pattern
  | other name => exact searched (.other name) (by simp) pattern

theorem anyM_answers [Host] (command : String) {l : List CommandPattern}
    (compiling : ∀ p ∈ l, p.Compiles) :
    Command.Cached.Answers (l.anyM fun p => (p.matchesCached · command))
      (l.any (·.fits command)) := by
  induction l with
  | nil => exact .pure false
  | cons p rest ih =>
    obtain ⟨first, later⟩ := List.forall_mem_cons.mp compiling
    rw [List.anyM, List.any_cons]
    refine .bind (matchesCached_answers (first.matches?_eq command)) ?_
    cases p.fits command with
    | true => exact .pure true
    | false => exact ih later

end CommandPattern

def Registration.Knows [Host] (r : Registration) (command : String) : Prop :=
  ∃ p ∈ r.profile.commands, p.Describes command

theorem Registration.knows_iff [Host] (r : Registration) (command : String) :
    r.profile.commands.any (·.fits command) = true ↔ r.Knows command := by
  simp only [List.any_eq_true, CommandPattern.fits_iff, Knows]

namespace Registry

def byCommandCached [Host] (g : Registry) (command : String) :
    Command.Cached (Option Registration) :=
  let command := Command.normalize command
  if command.isEmpty then return none
  else
    let known (r : Registration) := r.profile.commands.anyM fun p => (p.matchesCached · command)
    bestFrom? known none g.ranked

theorem bestFrom?_answers [Host] {asked : Registration → Command.Cached Bool}
    {knows : Registration → Bool}
    {l : List Registration} (answers : ∀ r ∈ l, (asked r).Answers (knows r))
    (sorted : l.Pairwise fun a b => b.profile.priority ≤ a.profile.priority) :
    (bestFrom? asked none l).Answers (l.find? knows) := by
  induction l with
  | nil => exact .pure none
  | cons r rest ih =>
    obtain ⟨first, later⟩ := List.forall_mem_cons.mp answers
    obtain ⟨behind, sorted⟩ := List.pairwise_cons.mp sorted
    rw [bestFrom?, List.find?_cons, bestFrom?_of_behind asked behind]
    simp only [Option.any_none, Bool.false_eq_true, if_false]
    refine .bind first ?_
    cases knows r with
    | true => exact .pure (some r)
    | false => exact ih later sorted

theorem Consistent.byCommandCached_answers [Host] {g : Registry} (valid : g.Consistent)
    (compiling : ∀ r ∈ g.entries, ∀ p ∈ r.profile.commands, p.Compiles) (command : String) :
    (g.byCommandCached command).Answers (g.fitting? command) := by
  have sorted := byPriority_pairwise g.entries
  rw [← valid.ranked_eq] at sorted
  rw [byCommandCached, fitting?]
  split
  · exact .pure none
  · refine bestFrom?_answers ?_ sorted
    intro r member
    exact CommandPattern.anyM_answers _ (compiling r ((mem_ranked valid).mp member))

/-- In an order in which each outranks those behind it, the first of a kind is the one that
outranks all others of the kind. -/
theorem find?_outranking {order : List (Registration × Nat)} (ordered : order.Pairwise Outranks)
    (p : Registration × Nat → Bool) (a : Registration × Nat) :
    order.find? p = some a ↔
      a ∈ order ∧ p a = true ∧ ∀ b ∈ order, p b = true → b = a ∨ Outranks a b := by
  have leading {b : Registration × Nat} (found : order.find? p = some b) :
      b ∈ order ∧ p b = true ∧ ∀ c ∈ order, p c = true → c = b ∨ Outranks b c := by
    obtain ⟨chosen, before, after, rfl, passed⟩ := List.find?_eq_some_iff_append.mp found
    refine ⟨by simp, chosen, fun c member other => ?_⟩
    obtain ⟨-, behind, -⟩ := List.pairwise_append.mp ordered
    rcases List.mem_append.mp member with inside | later
    · exact absurd other (by simpa using passed c inside)
    · rcases List.mem_cons.mp later with rfl | last
      · exact .inl rfl
      · exact .inr (List.rel_of_pairwise_cons behind last)
  constructor
  · exact leading
  · rintro ⟨member, chosen, best⟩
    cases found : order.find? p with
    | none => exact absurd chosen (by simpa using List.find?_eq_none.mp found a member)
    | some b =>
      obtain ⟨inside, known, first⟩ := leading found
      rcases first a member chosen with rfl | better
      · rfl
      · rcases best b inside known with rfl | worse
        · rfl
        · exact absurd better worse.asymm

/-- Whatever was registered and taken out before, the look-up for a command answers as long as no
pattern gives up, and the same whatever patterns were compiled earlier. It finds nothing exactly if
nothing is left of the command or no registered format knows it, and otherwise the one that outranks
all others that know it; and a folder in front of the program changes nothing. -/
theorem byCommand_performAll [Host] (ops : List Operation)
    (compiling : ∀ r ∈ present ops, ∀ p ∈ r.profile.commands, p.Compiles) (command : String) :
    let g := empty.performAll ops
    let registered := (present ops).zipIdx
    let normal := Command.normalize command
    ∃ found, g.byCommand command = pure found ∧
      (∀ requests, ∃ later,
        g.byCommandCached command (Command.Cache.empty.afterAll requests) = .ok (found, later)) ∧
      (found = none ↔ normal = "" ∨ ∀ entry ∈ registered, ¬entry.1.Knows normal) ∧
      (∀ r, found = some r ↔ normal ≠ "" ∧ ∃ place, (r, place) ∈ registered ∧ r.Knows normal ∧
        ∀ other ∈ registered, other.1.Knows normal →
          other = (r, place) ∨ Outranks (r, place) other) ∧
      ∀ folder : String, (∀ c ∈ folder.toList, isBlank c = false) →
        (∀ c ∈ command.toList.head?, isBlank c = false) →
        g.byCommand (folder ++ "/" ++ command) = g.byCommand command := by
  intro g registered normal
  have valid : g.Consistent := performAll_consistent empty_consistent ops
  have entries : g.entries = present ops := performAll_entries empty_consistent ops
  obtain ⟨order, view, perm, ordered⟩ := byPriority_outranks (present ops)
  let knows : Registration × Nat → Bool := fun entry => entry.1.profile.commands.any (·.fits normal)
  have chosen : g.fitting? command =
      if normal = "" then none else (order.find? knows).map (·.1) := by
    rw [fitting?, valid.ranked_eq, entries, ← view, List.find?_map]
    simp only [String.isEmpty_iff]
    rfl
  have compiling : ∀ r ∈ g.entries, ∀ p ∈ r.profile.commands, p.Compiles := entries ▸ compiling
  refine ⟨g.fitting? command, valid.byCommand_eq_fitting? (valid.not_givesUpOn compiling command),
    ?_, ?_, ?_, ?_⟩
  · intro requests
    have faithful := Command.Cache.empty_isFaithful.afterAll requests
    obtain ⟨later, answer, -⟩ := valid.byCommandCached_answers compiling command _ faithful
    exact ⟨later, answer⟩
  · rw [chosen]
    by_cases empty : normal = ""
    · simp [empty]
    · simp only [empty, if_false, Option.map_eq_none_iff, List.find?_eq_none, false_or,
        perm.mem_iff, knows, Registration.knows_iff]
      rfl
  · intro r
    rw [chosen]
    by_cases empty : normal = ""
    · simp [empty]
    · simp only [empty, if_false, Option.map_eq_some_iff, find?_outranking ordered, knows,
        Registration.knows_iff, perm.mem_iff]
      constructor
      · rintro ⟨⟨_, place⟩, best, rfl⟩
        exact ⟨empty, place, best⟩
      · rintro ⟨-, place, best⟩
        exact ⟨(r, place), best, rfl⟩
  · intro folder clean solid
    rw [byCommand, byCommand, Command.normalize_folder clean solid]

def knownBy (name : String) (priority : Int) (pattern : String) (kind : CommandKind) : Format where
  profile := { format := name, priority, commands := [⟨pattern, kind⟩] }
  accepts _ := pure true
  parse _ := pure []

/-- A format known by a word, two of greater priority known by wildcards and by a pattern, and one
that stands above all but whose pattern has a fault. -/
def makers : List Registration := [
  ⟨0, knownBy "word" 5 "make" .literal⟩,
  ⟨1, knownBy "wildcards" 7 "ma%" .like⟩,
  ⟨2, knownBy "pattern" 7 "m.ke" .regexp⟩,
  ⟨3, knownBy "faulty" 9 "(make" .regexp⟩]

theorem present_makers : present (makers.map .add) = makers := rfl

theorem makers_compiling : ∀ r ∈ makers, ∀ p ∈ r.profile.commands, p.Compiles := by
  have read : (Command.compile? .regexp "m.ke").isOk = true := by cbv
  have faulty : Command.compile? .regexp "(make" = .ok none := by cbv
  simp only [makers, Registration.profile, knownBy, List.forall_mem_cons, List.not_mem_nil,
    false_implies, implies_true, and_true]
  refine ⟨?_, ?_, ?_, ?_⟩
  · exact CommandPattern.IsPlain.compiles (.inl rfl)
  · exact CommandPattern.IsPlain.compiles (.inr rfl)
  · intro _
    cases answer : Command.compile? .regexp "m.ke" with
    | ok compiled => exact ⟨compiled, rfl⟩
    | error e =>
      rw [answer] at read
      cases read
  · exact fun _ => ⟨none, faulty⟩

theorem faulty_unknowing (command : String) :
    ¬(Registration.mk 3 (knownBy "faulty" 9 "(make" .regexp)).Knows command := by
  have faulty : (Pattern.read "(make").isOk = false := by cbv
  rintro ⟨p, listed, described⟩
  obtain rfl := List.mem_singleton.mp listed
  obtain ⟨compiled, read, -⟩ := described
  rw [read] at faulty
  cases faulty

/-- Of those that know the command the first of the greatest priority is found. -/
theorem byCommand_makers :
    (∀ r ∈ present (makers.map .add), ∀ p ∈ r.profile.commands, p.Compiles) ∧
    (empty.performAll (makers.map .add)).byCommand "/usr/bin/make -j all" =
      pure (some ⟨1, knownBy "wildcards" 7 "ma%" .like⟩) := by
  obtain ⟨found, answer, -, -, chosen, -⟩ :=
    byCommand_performAll (makers.map .add) makers_compiling "/usr/bin/make -j all"
  have normal : Command.normalize "/usr/bin/make -j all" = "make -j all" := by decide
  rw [normal, present_makers] at chosen
  have described : Pattern.Like.Describes "ma%".toList "make -j all".toList :=
    .self (by decide) (by decide) (.self (by decide) (by decide)
      (.run "ke -j all".toList (by decide) .nil))
  have best : found = some ⟨1, knownBy "wildcards" 7 "ma%" .like⟩ := by
    refine (chosen _).mpr ⟨by decide, 1, ?_, ⟨_, List.mem_singleton.mpr rfl, described⟩, ?_⟩
    · simp [makers]
    · simp only [makers, List.zipIdx_cons, List.zipIdx_nil, List.forall_mem_cons,
        List.not_mem_nil, false_implies, implies_true, and_true]
      refine ⟨fun _ => ?_, fun _ => ?_, fun _ => ?_, fun knows => ?_⟩
      · exact .inr (.inl (by decide))
      · exact .inl trivial
      · exact .inr (.inr ⟨rfl, by decide⟩)
      · exact absurd knows (faulty_unknowing _)
  exact ⟨makers_compiling, answer.trans (congrArg _ best)⟩

end Registry

end BuildLog
