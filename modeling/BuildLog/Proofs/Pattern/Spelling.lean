import BuildLog.Pattern.Search

/-! Patterns as languages. A tree that looks at nothing but the characters it takes is found in a
text if and only if the text holds a piece that the tree spells, whatever the search prefers and
however far it goes back. -/
namespace BuildLog.Pattern

theorem anyButLineFeed_has (c : Char) : CharClass.anyButLineFeed.has c = true ↔ c ≠ '\n' := by
  have feed : c.toNat = 10 ↔ c = '\n' := Char.toNat_inj (d := '\n')
  have member : CharClass.anyButLineFeed.has c = !(c.toNat == 10) := by
    simp only [CharClass.has, CharClass.anyButLineFeed, Item.has, Fold.matching, List.any_cons,
      List.any_nil, Bool.or_false, List.contains_cons, List.contains_nil, Bool.bne_true,
      BEq.comm (a := c.toNat)]
  rw [member, Bool.not_eq_true', beq_eq_false_iff_ne, ne_eq, feed]

theorem blanks_has (c : Char) : CharClass.blanks.has c = Text.isBlank c := by
  simp [CharClass.has, CharClass.blanks, Item.has, Category.has]

theorem digits_has (c : Char) : CharClass.digits.has c = Text.isDecimal c := by
  simp [CharClass.has, CharClass.digits, Item.has, Category.has]

namespace Node

/-- No anchors, no references to what was matched before, nothing that is not given back. Loops of
trees are left out. -/
def isPlain : Node → Bool
  | .empty | .one _ => true
  | .cat first second | .alt first second => first.isPlain && second.isPlain
  | .group _ body => body.isPlain
  | .run greed _ _ _ => greed != .possessive
  | _ => false

def Spells : Node → List Char → Prop
  | .empty, u => u = []
  | .one k, u => ∃ c, u = [c] ∧ k.has c = true
  | .cat first second, u => ∃ v w, u = v ++ w ∧ first.Spells v ∧ second.Spells w
  | .alt first second, u => first.Spells u ∨ second.Spells u
  | .group _ body, u => body.Spells u
  | .run _ least most k, u =>
    least ≤ u.length ∧ (∀ m, most = some m → u.length ≤ m) ∧ ∀ c ∈ u, k.has c = true
  | _, _ => False

theorem spells_char (c : Char) : (char c).Spells [c] := by
  refine ⟨c, rfl, ?_⟩
  simp [CharClass.has, CharClass.char, Item.has, Fold.matching]

theorem spells_seq_cons (first : Node) (rest : List Node) (u : List Char) :
    (seq (first :: rest)).Spells u ↔
      ∃ v w, u = v ++ w ∧ first.Spells v ∧ (seq rest).Spells w := by
  cases rest with
  | nil =>
    constructor
    · intro spelled
      exact ⟨u, [], by simp, spelled, rfl⟩
    · rintro ⟨v, w, rfl, spelled, empty⟩
      obtain rfl : w = [] := empty
      simpa [seq] using spelled
  | cons second rest => rfl

theorem seq_isPlain {nodes : List Node} (plain : ∀ n ∈ nodes, n.isPlain = true) :
    (seq nodes).isPlain = true := by
  induction nodes with
  | nil => rfl
  | cons n rest ih =>
    obtain ⟨first, later⟩ := List.forall_mem_cons.mp plain
    cases rest with
    | nil => exact first
    | cons m rest => exact Bool.and_eq_true_iff.mpr ⟨first, ih later⟩

theorem spells_char_iff (c : Char) (u : List Char) : (char c).Spells u ↔ u = [c] := by
  constructor
  · rintro ⟨d, rfl, member⟩
    have same : d.toNat = c.toNat := by
      simpa [CharClass.has, CharClass.char, Item.has, Fold.matching, eq_comm] using member
    rw [Char.toNat_inj.mp same]
  · rintro rfl
    exact spells_char c

theorem spells_literal_iff (s : String) (u : List Char) :
    (literal s).Spells u ↔ u = s.toList := by
  have each (cs : List Char) : (seq (cs.map char)).Spells u ↔ u = cs := by
    induction cs generalizing u with
    | nil => rfl
    | cons c rest ih =>
      rw [List.map_cons, spells_seq_cons]
      simp only [spells_char_iff, ih]
      simp
  exact each s.toList

theorem spells_literal (s : String) : (literal s).Spells s.toList :=
  (spells_literal_iff s _).mpr rfl

theorem literal_isPlain (s : String) : (literal s).isPlain = true :=
  seq_isPlain (by simp [char, isPlain])

theorem spells_cat {first second : Node} {v w : List Char} (before : first.Spells v)
    (after : second.Spells w) : (cat first second).Spells (v ++ w) :=
  ⟨v, w, rfl, before, after⟩

theorem spells_run {greed : Greed} {least : Nat} {k : CharClass} {u : List Char}
    (enough : least ≤ u.length) (inside : u.all k.has = true) :
    (run greed least none k).Spells u :=
  ⟨enough, nofun, List.all_eq_true.mp inside⟩

theorem spells_replicate {k : CharClass} {c : Char} (member : k.has c = true) (n : Nat) :
    (many k).Spells (List.replicate n c) :=
  ⟨Nat.zero_le _, nofun, fun _ inside => List.eq_of_mem_replicate inside ▸ member⟩

theorem spells_between {greed : Greed} {least most : Nat} {k : CharClass} {u : List Char}
    (enough : least ≤ u.length) (bounded : u.length ≤ most) (inside : u.all k.has = true) :
    (run greed least (some most) k).Spells u :=
  ⟨enough, fun _ same => Option.some.inj same ▸ bounded, List.all_eq_true.mp inside⟩

end Node

theorem giveBack_isSome (next : Nat → Option α) (n : Nat) :
    (giveBack next n).isSome = true ↔ ∃ m ≤ n, (next m).isSome = true := by
  induction n with
  | zero => simp [giveBack]
  | succ n ih =>
    rw [giveBack]
    cases last : next (n + 1) with
    | some found => exact ⟨fun _ => ⟨n + 1, Nat.le_refl _, by simp [last]⟩, fun _ => rfl⟩
    | none =>
      rw [ih]
      constructor
      · rintro ⟨m, within, found⟩
        exact ⟨m, Nat.le_succ_of_le within, found⟩
      · rintro ⟨m, within, found⟩
        obtain within | rfl := Nat.le_add_one_iff.mp within
        · exact ⟨m, within, found⟩
        · simp [last] at found

theorem takeMore_isSome (next : Nat → Option α) (taken extra : Nat) :
    (takeMore next taken extra).isSome = true ↔
      ∃ m ≤ extra, (next (taken + m)).isSome = true := by
  induction extra generalizing taken with
  | zero => simp [takeMore]
  | succ extra ih =>
    rw [takeMore]
    cases first : next taken with
    | some found => exact ⟨fun _ => ⟨0, Nat.zero_le _, by simp [first]⟩, fun _ => rfl⟩
    | none =>
      rw [ih]
      constructor
      · rintro ⟨m, within, found⟩
        exact ⟨m + 1, by omega, by rwa [Nat.add_assoc, Nat.add_comm 1] at found⟩
      · rintro ⟨m, within, found⟩
        cases m with
        | zero => simp [first] at found
        | succ m => exact ⟨m, by omega, by rwa [Nat.add_assoc, Nat.add_comm 1]⟩

theorem getElem?_eq_head? (text : Array Char) (position : Nat) :
    text[position]? = (text.toList.drop position).head? := by
  rw [List.head?_drop, Array.getElem?_toList]

/-- A run is as long as the longest piece of its class that stands at the position. -/
theorem le_runLength_iff (text : Array Char) (k : CharClass) (position n limit : Nat) :
    n ≤ runLength text k position limit ↔
      n ≤ limit ∧ ∃ u, u <+: text.toList.drop position ∧ u.length = n ∧
        ∀ c ∈ u, k.has c = true := by
  induction limit generalizing position n with
  | zero =>
    simp only [runLength, Nat.le_zero_eq]
    constructor
    · rintro rfl
      exact ⟨rfl, [], List.nil_prefix, rfl, by simp⟩
    · exact fun found => found.1
  | succ limit ih =>
    cases n with
    | zero => exact ⟨fun _ => ⟨Nat.zero_le _, [], List.nil_prefix, rfl, by simp⟩, fun _ => by simp⟩
    | succ n =>
      have next : text.toList.drop (position + 1) = (text.toList.drop position).tail := by simp
      rw [runLength, getElem?_eq_head?]
      cases standing : text.toList.drop position with
      | nil =>
        simp only [List.head?_nil, List.prefix_nil]
        constructor
        · intro h; omega
        · rintro ⟨_, u, rfl, length, _⟩; cases length
      | cons c rest =>
        simp only [List.head?_cons]
        rw [standing, List.tail_cons] at next
        cases member : k.has c with
        | false =>
          simp only [Bool.false_eq_true, if_false]
          constructor
          · intro h; omega
          · rintro ⟨_, u, ahead, length, all⟩
            cases u with
            | nil => cases length
            | cons d u =>
              obtain rfl := (List.cons_prefix_cons.mp ahead).1
              simp [member] at all
        | true =>
          simp only [if_true, Nat.add_le_add_iff_right, ih, next]
          constructor
          · rintro ⟨within, u, ahead, length, all⟩
            exact ⟨within, c :: u, List.cons_prefix_cons.mpr ⟨rfl, ahead⟩, by simp [length],
              by simpa [member] using all⟩
          · rintro ⟨within, u, ahead, length, all⟩
            cases u with
            | nil => cases length
            | cons d u =>
              exact ⟨within, u, (List.cons_prefix_cons.mp ahead).2, by simpa using length,
                fun e inside => all e (by simp [inside])⟩

/-- A run that gives back continues behind every number of characters that is allowed. -/
theorem matchRun_isSome {greed : Greed} (plain : greed ≠ .possessive) (text : Array Char)
    (least : Nat) (most : Option Nat) (k : CharClass) (position : Nat) (next : Nat → Option α) :
    (matchRun text greed least most k position next).isSome = true ↔
      ∃ n, least ≤ n ∧
        n ≤ runLength text k position ((most.getD (text.size - position)).min
          (text.size - position)) ∧
        (next (position + n)).isSome = true := by
  simp only [matchRun]
  generalize runLength text k position _ = longest
  by_cases short : longest < least
  · simp only [short, if_true, Option.isSome_none, Bool.false_eq_true, false_iff]
    rintro ⟨n, enough, within, -⟩
    omega
  · simp only [short, if_false]
    cases greed with
    | greedy =>
      rw [giveBack_isSome]
      constructor
      · rintro ⟨m, within, found⟩
        exact ⟨least + m, by omega, by omega, by rwa [← Nat.add_assoc]⟩
      · rintro ⟨n, enough, within, found⟩
        refine ⟨n - least, by omega, ?_⟩
        rwa [Nat.add_assoc, Nat.add_sub_cancel' enough]
    | lazy =>
      rw [takeMore_isSome]
      constructor
      · rintro ⟨m, within, found⟩
        exact ⟨least + m, by omega, by omega, found⟩
      · rintro ⟨n, enough, within, found⟩
        refine ⟨n - least, by omega, ?_⟩
        rwa [Nat.add_sub_cancel' enough]
    | possessive => exact absurd rfl plain

/-- The continuation succeeds behind some text that the tree spells. -/
def Node.Leads (node : Node) (text : Array Char) (goal : Nat → Prop) (position : Nat) : Prop :=
  ∃ u, node.Spells u ∧ u <+: text.toList.drop position ∧ goal (position + u.length)

theorem run_leads {greed : Greed} (plain : greed ≠ .possessive) (text : Array Char)
    (least : Nat) (most : Option Nat) (k : CharClass) (position : Nat) {next : Nat → Option α}
    {goal : Nat → Prop} (done : ∀ p, (next p).isSome = true ↔ goal p) :
    (matchRun text greed least most k position next).isSome = true ↔
      (Node.run greed least most k).Leads text goal position := by
  rw [matchRun_isSome plain]
  constructor
  · rintro ⟨n, enough, within, found⟩
    obtain ⟨limited, u, ahead, rfl, all⟩ := (le_runLength_iff _ _ _ _ _).mp within
    refine ⟨u, ⟨enough, fun m bounded => ?_, all⟩, ahead, (done _).mp found⟩
    subst bounded
    exact Nat.le_trans limited (Nat.min_le_left _ _)
  · rintro ⟨u, ⟨enough, bounded, all⟩, ahead, found⟩
    have left : u.length ≤ text.size - position := by simpa using ahead.length_le
    refine ⟨u.length, enough, (le_runLength_iff _ _ _ _ _).mpr ⟨?_, u, ahead, rfl, all⟩,
      (done _).mpr found⟩
    cases most with
    | none => simpa using left
    | some m => exact Nat.le_min.mpr ⟨bounded m rfl, left⟩

theorem cat_leads (first second : Node) (text : Array Char) (goal : Nat → Prop) (position : Nat) :
    (Node.cat first second).Leads text goal position ↔
      first.Leads text (second.Leads text goal) position := by
  constructor
  · rintro ⟨_, ⟨v, w, rfl, spelled, later⟩, ahead, found⟩
    have before := (List.prefix_append v w).trans ahead
    refine ⟨v, spelled, before, w, later, ?_, by rwa [Nat.add_assoc, ← List.length_append]⟩
    obtain ⟨rest, whole⟩ := ahead
    rw [← List.drop_drop, ← whole, List.append_assoc, List.drop_left]
    exact List.prefix_append w rest
  · rintro ⟨v, spelled, ⟨rest, whole⟩, w, later, ahead, found⟩
    rw [← List.drop_drop, ← whole, List.drop_left] at ahead
    refine ⟨v ++ w, ⟨v, w, rfl, spelled, later⟩, ?_, ?_⟩
    · rw [← whole]
      exact (List.prefix_append_right_inj v).mpr ahead
    · rwa [List.length_append, ← Nat.add_assoc]

theorem one_leads (k : CharClass) (text : Array Char) (goal : Nat → Prop) (position : Nat) :
    (Node.one k).Leads text goal position ↔
      ∃ c, text[position]? = some c ∧ k.has c = true ∧ goal (position + 1) := by
  rw [getElem?_eq_head?]
  constructor
  · rintro ⟨_, ⟨c, rfl, member⟩, ahead, found⟩
    refine ⟨c, ?_, member, found⟩
    obtain ⟨rest, whole⟩ := ahead
    rw [← whole]
    rfl
  · rintro ⟨c, standing, member, found⟩
    refine ⟨[c], ⟨c, rfl, member⟩, ?_, found⟩
    obtain ⟨rest, whole⟩ := List.head?_eq_some_iff.mp standing
    rw [whole]
    exact List.prefix_append [c] rest

/-- A plain tree goes on from a place to wherever a text that it spells leads. -/
theorem Node.walk_isSome {node : Node} (plain : node.isPlain = true) (text : Array Char)
    {next : Continuation} {goal : Nat → Prop}
    (done : ∀ p s, (next p s).isSome = true ↔ goal p) (position : Nat) (slots : Slots) :
    (node.walk text position slots next).isSome = true ↔ node.Leads text goal position := by
  induction node generalizing next goal position slots with
  | empty => simp [walk, Leads, Spells, done]
  | one k =>
    rw [one_leads, walk]
    cases text[position]? with
    | none => simp
    | some c => cases member : k.has c <;> simp [member, done]
  | cat first second ih₁ ih₂ =>
    obtain ⟨plain₁, plain₂⟩ := Bool.and_eq_true_iff.mp plain
    rw [cat_leads, walk, ih₁ plain₁]
    exact fun p s => ih₂ plain₂ done p s
  | alt first second ih₁ ih₂ =>
    obtain ⟨plain₁, plain₂⟩ := Bool.and_eq_true_iff.mp plain
    have either : (Node.alt first second).Leads text goal position ↔
        first.Leads text goal position ∨ second.Leads text goal position := by
      simp only [Leads, Spells, or_and_right, exists_or]
    rw [either, ← ih₁ plain₁ done position slots, ← ih₂ plain₂ done position slots, walk]
    cases first.walk text position slots next <;> simp
  | group index body ih =>
    rw [walk, ih plain]
    · rfl
    · exact fun p s => done p _
  | run greed least most k =>
    rw [walk, run_leads (by simpa [isPlain] using plain) _ _ _ _ _ fun p => done p slots]
  | _ => cases plain

/-- A search goes back from the last place as a run gives back from the longest one. -/
theorem searchLast_eq_giveBack (p : Pattern) (text : Array Char) (left : Nat) :
    p.searchLast text left = giveBack (fun i => p.matchAt text (text.size - i) accept) left := by
  induction left with
  | zero => rfl
  | succ left ih =>
    rw [searchLast, giveBack, ih]
    cases p.matchAt text (text.size - (left + 1)) accept <;> rfl

/-- A plain pattern is found in the texts that hold a piece which it spells. -/
theorem finds_iff {p : Pattern} (plain : p.root.isPlain = true) (s : String) :
    p.finds s = true ↔ ∃ u, p.root.Spells u ∧ u <:+: s.toList := by
  have here (position : Nat) : (p.matchAt s.toList.toArray position accept).isSome = true ↔
      ∃ u, p.root.Spells u ∧ u <+: s.toList.drop position := by
    rw [matchAt, Option.isSome_map, Node.walk_isSome plain _ fun p s => (iff_true_intro rfl)]
    simp only [Node.Leads, and_true]
  simp only [finds, search, searchLast_eq_giveBack, giveBack_isSome, here]
  constructor
  · rintro ⟨i, -, u, spelled, ahead⟩
    exact ⟨u, spelled, ahead.isInfix.trans (List.drop_suffix _ _).isInfix⟩
  · rintro ⟨u, spelled, inside⟩
    obtain ⟨t, ahead, ends⟩ := List.infix_iff_prefix_suffix.mp inside
    refine ⟨t.length, by simpa using ends.length_le, u, spelled, ?_⟩
    rw [List.suffix_iff_eq_drop.mp ends] at ahead
    simpa using ahead

namespace Node

/-- Plain trees one after another, with anchors between them. -/
def isAnchored : Node → Bool
  | .anchor _ => true
  | .cat first second => first.isAnchored && second.isAnchored
  | node => node.isPlain

/-- The continuation succeeds behind some text that the tree spells, where its anchors hold. -/
def Reaches (text : Array Char) : Node → (Nat → Prop) → Nat → Prop
  | .anchor a, goal, position => a.holds text position = true ∧ goal position
  | .cat first second, goal, position =>
    first.Reaches text (second.Reaches text goal) position
  | node, goal, position => node.Leads text goal position

theorem walk_isSome_iff_reaches {node : Node} (anchored : node.isAnchored = true)
    (text : Array Char) {next : Continuation} {goal : Nat → Prop}
    (done : ∀ p s, (next p s).isSome = true ↔ goal p) (position : Nat) (slots : Slots) :
    (node.walk text position slots next).isSome = true ↔ node.Reaches text goal position := by
  induction node generalizing next goal position slots with
  | anchor a =>
    rw [walk, Reaches]
    by_cases holds : a.holds text position = true
    · simp [holds, done]
    · simp [holds]
  | cat first second ih₁ ih₂ =>
    obtain ⟨anchored₁, anchored₂⟩ := Bool.and_eq_true_iff.mp anchored
    rw [walk, Reaches, ih₁ anchored₁]
    intro p s
    exact ih₂ anchored₂ done p s
  | _ => exact walk_isSome anchored text done position slots

/-- In a plain tree nothing counts but what it spells. -/
theorem reaches_iff_leads {node : Node} (plain : node.isPlain = true) (text : Array Char)
    (goal : Nat → Prop) (position : Nat) :
    node.Reaches text goal position ↔ node.Leads text goal position := by
  induction node generalizing goal position with
  | anchor a => cases plain
  | cat first second ih₁ ih₂ =>
    obtain ⟨plain₁, plain₂⟩ := Bool.and_eq_true_iff.mp plain
    have later : second.Reaches text goal = second.Leads text goal :=
      funext fun p => propext (ih₂ plain₂ goal p)
    rw [Reaches, ih₁ plain₁, later, cat_leads]
  | _ => rfl

theorem literal_leads (s : String) (text : Array Char) (goal : Nat → Prop) (position : Nat) :
    (literal s).Leads text goal position ↔
      s.toList <+: text.toList.drop position ∧ goal (position + s.toList.length) := by
  simp only [Leads, spells_literal_iff, exists_eq_left]

/-- Plain trees in front of others. -/
theorem seq_append_reaches {nodes rest : List Node} (plain : ∀ n ∈ nodes, n.isPlain = true)
    (filled : rest ≠ []) (text : Array Char) (goal : Nat → Prop) (position : Nat) :
    (seq (nodes ++ rest)).Reaches text goal position ↔
      (seq nodes).Leads text ((seq rest).Reaches text goal) position := by
  induction nodes generalizing position with
  | nil => simp [Leads, seq, Spells]
  | cons n nodes ih =>
    obtain ⟨first, later⟩ := List.forall_mem_cons.mp plain
    obtain ⟨m, more, whole⟩ := List.exists_cons_of_ne_nil (List.append_ne_nil_of_right_ne_nil nodes
      filled)
    have next : (seq (nodes ++ rest)).Reaches text goal =
        (seq nodes).Leads text ((seq rest).Reaches text goal) :=
      funext fun p => propext (ih later p)
    have split : (seq (n :: nodes)).Leads text ((seq rest).Reaches text goal) position ↔
        (cat n (seq nodes)).Leads text ((seq rest).Reaches text goal) position :=
      exists_congr fun u => and_congr_left' (spells_seq_cons n nodes u)
    rw [split, cat_leads, ← next, ← reaches_iff_leads first, List.cons_append, whole]
    rfl

/-- To the end of a line there may be anything. -/
theorem rest_reaches {cs : List Char} (unfed : '\n' ∉ cs) (index least : Nat)
    {position : Nat} (inside : position ≤ cs.length) :
    (cat (.group index (.run .greedy least none .anyButLineFeed)) (.anchor .lastLineEnd)).Reaches
      cs.toArray (fun _ => True) position ↔ position + least ≤ cs.length := by
  have left : (cs.drop position).length = cs.length - position := List.length_drop
  constructor
  · rintro ⟨u, ⟨enough, -, -⟩, ahead, -⟩
    have short : u.length ≤ (cs.drop position).length := ahead.length_le
    omega
  · intro enough
    have other : ∀ c ∈ cs.drop position, CharClass.anyButLineFeed.has c = true := by
      intro c member
      rw [anyButLineFeed_has]
      rintro rfl
      exact unfed (List.mem_of_mem_drop member)
    refine ⟨cs.drop position, ⟨by omega, nofun, other⟩, List.prefix_rfl, ?_, trivial⟩
    have whole : position + (cs.drop position).length = cs.toArray.size := by
      rw [left, List.size_toArray]
      omega
    rw [Anchor.holds, whole, beq_self_eq_true, Bool.true_or]

def avoids (c : Char) : Node → Bool
  | .one k | .run _ _ _ k => !k.has c
  | .cat first second | .alt first second => first.avoids c && second.avoids c
  | .group _ body => body.avoids c
  | _ => true

theorem Spells.avoid {node : Node} {u : List Char} (spelled : node.Spells u) {c : Char}
    (avoided : node.avoids c = true) : c ∉ u := by
  induction node generalizing u with
  | empty =>
    obtain rfl : u = [] := spelled
    simp
  | one k =>
    obtain ⟨d, rfl, member⟩ := spelled
    simp only [List.mem_singleton]
    rintro rfl
    simp [avoids, member] at avoided
  | cat first second ih₁ ih₂ =>
    obtain ⟨avoided₁, avoided₂⟩ := Bool.and_eq_true_iff.mp avoided
    obtain ⟨v, w, rfl, before, after⟩ := spelled
    simp [ih₁ before avoided₁, ih₂ after avoided₂]
  | alt first second ih₁ ih₂ =>
    obtain ⟨avoided₁, avoided₂⟩ := Bool.and_eq_true_iff.mp avoided
    exact spelled.elim (ih₁ · avoided₁) (ih₂ · avoided₂)
  | group index body ih => exact ih spelled avoided
  | run greed least most k =>
    intro member
    simp [avoids, spelled.2.2 c member] at avoided
  | _ => exact absurd spelled id

def takes : Node → Bool
  | .one _ => true
  | .cat first second => first.takes || second.takes
  | .alt first second => first.takes && second.takes
  | .group _ body => body.takes
  | .run _ least _ _ => least != 0
  | _ => false

theorem Spells.ne_nil {node : Node} {u : List Char} (spelled : node.Spells u)
    (taken : node.takes = true) : u ≠ [] := by
  induction node generalizing u with
  | one k =>
    obtain ⟨d, rfl, -⟩ := spelled
    simp
  | cat first second ih₁ ih₂ =>
    obtain ⟨v, w, rfl, before, after⟩ := spelled
    rw [takes, Bool.or_eq_true_iff] at taken
    intro empty
    obtain ⟨rfl, rfl⟩ := List.append_eq_nil_iff.mp empty
    exact taken.elim (ih₁ before · rfl) (ih₂ after · rfl)
  | alt first second ih₁ ih₂ =>
    obtain ⟨taken₁, taken₂⟩ := Bool.and_eq_true_iff.mp taken
    exact spelled.elim (ih₁ · taken₁) (ih₂ · taken₂)
  | group index body ih => exact ih spelled taken
  | run greed least most k =>
    rintro rfl
    have none : least = 0 := Nat.le_zero.mp spelled.1
    simp [takes, none] at taken
  | _ => cases taken

end Node

/-- The match over the whole length of a text. -/
theorem matchWhole_isSome {p : Pattern} (plain : p.root.isPlain = true) (s : String) :
    (p.matchWhole s).isSome = true ↔ p.root.Spells s.toList := by
  have ends : ∀ (position : Nat) (slots : Slots),
      (if position == s.toList.toArray.size then some (⟨position, slots⟩ : Point)
        else none).isSome = true ↔ position = s.toList.length := by
    intro position slots
    by_cases last : position = s.toList.length <;> simp [last]
  rw [matchWhole, matchAt, Option.isSome_map, Node.walk_isSome plain _ ends]
  constructor
  · rintro ⟨u, spelled, ahead, whole⟩
    simp only [List.drop_zero, Nat.zero_add] at ahead whole
    rwa [← ahead.eq_of_length whole]
  · intro spelled
    exact ⟨s.toList, spelled, by simp, by simp⟩

/-- An anchored pattern matches at the beginning of a text if it comes to an end somewhere. -/
theorem matchStart_isSome {p : Pattern} (anchored : p.root.isAnchored = true) (s : String) :
    (p.matchStart s).isSome = true ↔ p.root.Reaches s.toList.toArray (fun _ => True) 0 := by
  rw [matchStart, matchAt, Option.isSome_map]
  exact Node.walk_isSome_iff_reaches anchored _ (fun p s => iff_true_intro rfl) 0 _

/-- A repetition that may take nothing does not stand in the way of what comes behind it. -/
theorem Node.walk_loop_isSome {most : Option Nat} {body : Node} {text : Array Char}
    {position : Nat} {slots : Slots} {next : Continuation}
    (done : (next position slots).isSome = true) :
    ((Node.loop .greedy 0 most body).walk text position slots next).isSome = true := by
  simp only [walk, matchRounds, greedyRounds, Nat.lt_irrefl, if_false]
  split
  · split
    · rfl
    · exact done
  · exact done

/-- What may stand at the beginning of a text may be missing there. -/
theorem matchStart_of_missing {p : Pattern} {most : Option Nat} {body rest : Node}
    (root : p.root = .cat (.anchor .textStart) (.cat (.loop .greedy 0 most body) rest))
    (anchored : rest.isAnchored = true) {s : String}
    (reaches : rest.Reaches s.toList.toArray (fun _ => True) 0) :
    (p.matchStart s).isSome = true := by
  have begins : Anchor.holds s.toList.toArray 0 .textStart = true := rfl
  rw [matchStart, matchAt, Option.isSome_map, root, Node.walk, Node.walk, if_pos begins, Node.walk]
  refine Node.walk_loop_isSome ?_
  exact (Node.walk_isSome_iff_reaches anchored _ (fun p s => iff_true_intro rfl) 0 _).mpr reaches

end BuildLog.Pattern
