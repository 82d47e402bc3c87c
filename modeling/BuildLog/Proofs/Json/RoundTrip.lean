import BuildLog.Json.Reader
import BuildLog.Json.Writer

/-! Values that are written on one line are read back. This is told of values without numbers and
words: texts of any characters, lists, and objects whose members have names of their own. -/
namespace BuildLog.Json

variable {whole rest : List Char}

/-- The value can be read with so many brackets that may be opened. -/
inductive Value.IsTextual : Nat → Value → Prop
  | string {n} (s : String) : IsTextual n (.string s)
  | array {n items} (each : ∀ v ∈ items, IsTextual n v) : IsTextual (n + 1) (.array items)
  | object {n members} (distinct : (members.map Prod.fst).Nodup)
      (each : ∀ m ∈ members, IsTextual n m.2) : IsTextual (n + 1) (.object members)

/-- What is read of a text is `a`, and `rest` is left. -/
def Leaves {s : List Char} (x : Except Stop (α × Shorter s)) (a : α) (rest : List Char) : Prop :=
  ∃ h, x = .ok (a, ⟨rest, h⟩)

theorem hex_below_space : ∀ n < 32, ∃ a b c d, Text.hex 4 n = [a, b, c, d] ∧
    hexValue4? a b c d = some n ∧ isHighSurrogate n = false ∧ unitChar n = Char.ofNat n := by
  have digits (n : Nat) : Text.hex 4 n =
      [Text.hexDigit (n / 16 / 16 / 16 % 16), Text.hexDigit (n / 16 / 16 % 16),
        Text.hexDigit (n / 16 % 16), Text.hexDigit (n % 16)] := rfl
  have values : ∀ n < 32, hexValue4? (Text.hexDigit (n / 16 / 16 / 16 % 16))
      (Text.hexDigit (n / 16 / 16 % 16)) (Text.hexDigit (n / 16 % 16)) (Text.hexDigit (n % 16)) =
        some n ∧ isHighSurrogate n = false ∧ unitChar n = Char.ofNat n := by decide
  exact fun n small => ⟨_, _, _, _, digits n, values n small⟩

theorem Leaves.of_eq {s : List Char} {x : Except Stop (α × Shorter s)} {a : α} {r : Shorter s}
    (read : x = .ok (a, r)) (left : r.1 = rest) : Leaves x a rest :=
  left ▸ ⟨r.2, read⟩

/-- A control character is escaped by its number, behind which the text goes on. -/
theorem stringChar_unit (opening : List Char) {n : Nat} (small : n < 32) (next : Char)
    (rest : List Char) :
    Leaves (stringChar opening (escapeUnit n ++ next :: rest)) (some (Char.ofNat n))
      (next :: rest) := by
  obtain ⟨a, b, c, d, digits, value, low, single⟩ := hex_below_space n small
  have read : unicodeChar (a :: b :: c :: d :: next :: rest) =
      .ok (Char.ofNat n, ⟨next :: rest, by simp⟩) := by
    simp only [unicodeChar, unit, value, low, single, Bool.false_eq_true, if_false]
  rw [escapeUnit, digits]
  simp only [List.cons_append, List.nil_append, stringChar, read]
  exact ⟨_, rfl⟩

theorem stringChar_escape (opening : List Char) (c next : Char) (rest : List Char) :
    Leaves (stringChar opening (Style.compact.escape c ++ next :: rest)) (some c)
      (next :: rest) := by
  have short {d e : Char} (escaped : escaped? e = some d) (single : e ≠ 'u') :
      Leaves (stringChar opening ('\\' :: e :: next :: rest)) (some d) (next :: rest) := by
    simp only [stringChar, escaped]
    exact ⟨_, rfl⟩
  have numbered {n : Nat} (number : (c.toNat == n) = true) : Char.ofNat n = c :=
    beq_iff_eq.mp number ▸ c.ofNat_toNat
  generalize written : Style.compact.escape c = spelled
  -- a case for each escape; the reader, too, has the quote and the backslash before the others
  unfold Style.escape at written
  dsimp only at written
  split at written
  next quote =>
    obtain rfl := beq_iff_eq.mp quote
    exact written ▸ short rfl (by decide)
  next notQuote =>
  split at written
  next slash =>
    obtain rfl := beq_iff_eq.mp slash
    exact written ▸ short rfl (by decide)
  next notSlash =>
  split at written
  next feed =>
    obtain rfl := beq_iff_eq.mp feed
    exact written ▸ short rfl (by decide)
  split at written
  next back =>
    obtain rfl := beq_iff_eq.mp back
    exact written ▸ short rfl (by decide)
  split at written
  next tab =>
    obtain rfl := beq_iff_eq.mp tab
    exact written ▸ short rfl (by decide)
  split at written
  next backspace => exact written ▸ numbered backspace ▸ short rfl (by decide)
  split at written
  next formFeed => exact written ▸ numbered formFeed ▸ short rfl (by decide)
  split at written
  next small =>
    have read := stringChar_unit opening small next rest
    rw [c.ofNat_toNat] at read
    exact written ▸ read
  next large =>
    have plain : [c] = spelled := by simpa [Style.compact] using written
    have shown : stringChar opening (c :: next :: rest) =
        .ok (some c, ⟨next :: rest, Nat.lt_succ_self _⟩) := by
      have apart : c ≠ '"' ∧ c ≠ '\\' := by simpa using And.intro notQuote notSlash
      rw [stringChar]
      · rw [if_neg large]
      all_goals simp [apart]
    exact plain ▸ ⟨_, shown⟩

theorem stringTail_of_char {opening s seen : List Char} {c : Char} {behind : List Char} {a : String}
    (read : Leaves (stringChar opening s) (some c) behind)
    (later : ∀ h, Leaves (stringTail whole opening (c :: seen) behind h) a rest)
    (h : s.length ≤ whole.length) : Leaves (stringTail whole opening seen s h) a rest := by
  obtain ⟨shorter, read⟩ := read
  rw [stringTail, read]
  exact later _

theorem stringTail_escaped (opening seen cs : List Char)
    (h : (cs.flatMap Style.compact.escape ++ '"' :: rest).length ≤ whole.length) :
    Leaves (stringTail whole opening seen (cs.flatMap Style.compact.escape ++ '"' :: rest) h)
      (String.ofList (seen.reverse ++ cs)) rest := by
  induction cs generalizing seen with
  | nil =>
    rw [List.append_nil, stringTail]
    exact ⟨_, rfl⟩
  | cons c cs ih =>
    obtain ⟨next, behind, more⟩ : ∃ next behind,
        cs.flatMap Style.compact.escape ++ '"' :: rest = next :: behind :=
      List.exists_cons_of_ne_nil (by simp)
    have read := stringChar_escape opening c next behind
    rw [← more, ← List.append_assoc, ← List.flatMap_cons] at read
    have later := ih (c :: seen)
    rw [List.reverse_cons, List.append_assoc] at later
    exact stringTail_of_char read later h

theorem stringTail_written (opening : List Char) (text : String)
    (h : (text.toList.flatMap Style.compact.escape ++ '"' :: rest).length ≤ whole.length) :
    Leaves (stringTail whole opening [] (text.toList.flatMap Style.compact.escape ++ '"' :: rest) h)
      text rest := by
  have read := stringTail_escaped opening [] text.toList h
  rwa [List.reverse_nil, List.nil_append, String.ofList_toList] at read

theorem string_append (text : String) (rest : List Char) : Style.compact.string text ++ rest =
    '"' :: (text.toList.flatMap Style.compact.escape ++ '"' :: rest) := by
  simp [Style.string]

theorem behind?_cons (c : Char) : behind? c (c :: rest) = some ⟨rest, Nat.lt_succ_self _⟩ :=
  if_pos (beq_self_eq_true c)

theorem behind?_other {c d : Char} (other : d ≠ c) : behind? c (d :: rest) = none :=
  if_neg (by simp [other])

theorem skipSpace_solid {c : Char} (solid : isSpace c = false) :
    skipSpace (c :: rest) = c :: rest :=
  List.dropWhile_cons_of_neg (by simp [solid])

theorem memberName_written (name : String) (solid : skipSpace rest = rest) :
    Leaves (memberName (Style.compact.string name ++ ':' :: ' ' :: rest)) name rest := by
  obtain ⟨_, read⟩ := stringTail_written
    (name.toList.flatMap Style.compact.escape ++ '"' :: ':' :: ' ' :: rest) name (Nat.le_refl _)
  rw [string_append, memberName, behind?_cons]
  dsimp only
  rw [read]
  exact .of_eq rfl solid

section

variable {s : List Char} {r : Shorter s}

theorem Shorter.spaced_solid {c : Char} (solid : isSpace c = false) (left : r.1 = c :: rest) :
    r.spaced = ⟨c :: rest, left ▸ r.2⟩ :=
  Subtype.ext ((congrArg skipSpace left).trans (skipSpace_solid solid))

theorem closes_end {closing : Char} (solid : isSpace closing = false)
    (left : r.1 = closing :: rest) : Leaves (closes closing r) true rest := by
  unfold closes
  rw [Shorter.spaced_solid solid left]
  dsimp only
  rw [behind?_cons]
  exact .of_eq rfl rfl

theorem closes_comma {closing : Char} (other : ',' ≠ closing) (solid : skipSpace rest = rest)
    (left : r.1 = ',' :: ' ' :: rest) : Leaves (closes closing r) false rest := by
  unfold closes
  rw [Shorter.spaced_solid (by decide) left]
  dsimp only
  rw [behind?_other other, behind?_cons]
  exact .of_eq rfl solid

end

/-- What the values begin with is no blank. -/
theorem value_head {n : Nat} {v : Value} (textual : v.IsTextual n) (depth : Nat) :
    ∃ c ∈ ['"', '[', '\x7b'], ∃ written, Style.compact.value depth v = c :: written := by
  have brackets (opening closing : Char) (l : List (List Char)) :
      ∃ written, Style.compact.enclosed depth opening closing l = opening :: written := by
    cases l with
    | nil => exact ⟨_, rfl⟩
    | cons first rest => exact ⟨_, rfl⟩
  cases textual with
  | string s => exact ⟨'"', by decide, _, by rw [Style.value, Style.string]; rfl⟩
  | array each =>
    rw [Style.value]
    exact ⟨'[', by decide, brackets '[' ']' _⟩
  | object distinct each =>
    rw [Style.value]
    exact ⟨'\x7b', by decide, brackets '\x7b' '\x7d' _⟩

theorem opening_solid : ∀ c ∈ ['"', '[', '\x7b'], isSpace c = false := by
  simp [isSpace]

theorem skipSpace_value {n : Nat} {v : Value} (textual : v.IsTextual n) (depth : Nat)
    (rest : List Char) :
    skipSpace (Style.compact.value depth v ++ rest) = Style.compact.value depth v ++ rest := by
  obtain ⟨c, among, written, same⟩ := value_head textual depth
  rw [same, List.cons_append, skipSpace_solid (opening_solid c among)]

/-- How a value is read where it stands before any text. -/
def Value.IsReadAt (n : Nat) (v : Value) : Prop :=
  ∀ depth (whole rest : List Char) h,
    Leaves (value whole n (Style.compact.value depth v ++ rest) h) v rest

/-- What stands behind the first item between brackets. -/
def following (closing : Char) (later : List (List Char)) (rest : List Char) : List Char :=
  later.flatMap ([',', ' '] ++ ·) ++ closing :: rest

theorem following_cons (closing : Char) (first : List Char) (later : List (List Char)) :
    following closing (first :: later) rest =
      ',' :: ' ' :: (first ++ following closing later rest) := by
  simp [following]

theorem enclosed_append (depth : Nat) (opening closing : Char) (first : List Char)
    (later : List (List Char)) :
    Style.compact.enclosed depth opening closing (first :: later) ++ rest =
      opening :: (first ++ following closing later rest) := by
  simp [Style.enclosed, Style.compact, Style.lineBreak, Style.comma, following]

section

variable {n depth : Nat} {seen : List Value} {v : Value}

theorem items_last (read : v.IsReadAt n)
    (h : (Style.compact.value depth v ++ ']' :: rest).length ≤ whole.length) :
    Leaves (items whole n seen (Style.compact.value depth v ++ ']' :: rest) h)
      (.array (seen.reverse ++ [v])) rest := by
  obtain ⟨shorter, read⟩ := read depth _ (']' :: rest) (Nat.le_refl _)
  obtain ⟨_, closed⟩ := closes_end (r := ⟨_, shorter⟩) (by decide) rfl
  rw [items, read]
  dsimp only
  rw [closed]
  exact .of_eq (by rw [List.reverse_cons]) rfl

theorem items_more {after : List Char} {a : Value} (read : v.IsReadAt n)
    (solid : skipSpace after = after)
    (later : ∀ h, Leaves (items whole n (v :: seen) after h) a rest)
    (h : (Style.compact.value depth v ++ ',' :: ' ' :: after).length ≤ whole.length) :
    Leaves (items whole n seen (Style.compact.value depth v ++ ',' :: ' ' :: after) h) a rest := by
  obtain ⟨shorter, read⟩ := read depth _ (',' :: ' ' :: after) (Nat.le_refl _)
  have other : ',' ≠ ']' := by decide
  obtain ⟨_, open'⟩ := closes_comma (r := ⟨_, shorter⟩) other solid rfl
  rw [items, read]
  dsimp only
  rw [open']
  exact later _

theorem items_written (depth : Nat) {vs : List Value}
    (textual : ∀ u ∈ v :: vs, u.IsTextual n) (each : ∀ u ∈ v :: vs, u.IsReadAt n)
    {text : List Char} (written : text =
      Style.compact.value depth v ++ following ']' (Style.compact.items depth vs) rest)
    (h : text.length ≤ whole.length) :
    Leaves (items whole n seen text h) (.array (seen.reverse ++ v :: vs)) rest := by
  induction vs generalizing seen v text with
  | nil =>
    rw [Style.items] at written
    obtain rfl := written
    exact items_last (each v (.head _)) h
  | cons u us ih =>
    rw [Style.items, following_cons] at written
    obtain rfl := written
    have solid := skipSpace_value (textual u (.tail _ (.head _))) depth
      (following ']' (Style.compact.items depth us) rest)
    have later (h) : Leaves (items whole n (v :: seen) _ h)
        (.array ((v :: seen).reverse ++ u :: us)) rest :=
      ih (fun w among => textual w (.tail _ among)) (fun w among => each w (.tail _ among)) rfl h
    rw [List.reverse_cons, List.append_assoc] at later
    exact items_more (each v (.head _)) solid later h

end

theorem Members.not_among {seen ms : Members} {m : String × Value}
    (distinct : ((seen ++ m :: ms).map Prod.fst).Nodup) : m.1 ∉ seen.map Prod.fst := by
  rw [List.map_append, List.nodup_append] at distinct
  exact fun among => distinct.2.2 _ among _ (.head _) rfl

theorem Members.set_new {seen : Members} {name : String} (new : name ∉ seen.map Prod.fst)
    (v : Value) : seen.set name v = seen ++ [(name, v)] := by
  have missing : seen.has name = false := by
    rw [Members.has, Members.get?, List.lookup_eq_none_iff.mpr]
    · rfl
    · intro m among
      simpa using fun (same : name = m.1) => new (same ▸ List.mem_map_of_mem among)
  rw [Members.set, missing]
  rfl

section

variable {n depth : Nat} {seen : Members} {m : String × Value}

theorem members_last (textual : m.2.IsTextual n) (read : m.2.IsReadAt n)
    (new : m.1 ∉ seen.map Prod.fst)
    (h : (Style.compact.string m.1 ++
      ':' :: ' ' :: (Style.compact.value depth m.2 ++ '\x7d' :: rest)).length ≤ whole.length) :
    Leaves (members whole n seen (Style.compact.string m.1 ++
      ':' :: ' ' :: (Style.compact.value depth m.2 ++ '\x7d' :: rest)) h)
      (.object (seen ++ [m])) rest := by
  obtain ⟨named', named⟩ := memberName_written m.1
    (skipSpace_value textual depth ('\x7d' :: rest))
  obtain ⟨shorter, read⟩ := read depth _ ('\x7d' :: rest) (Nat.le_refl _)
  obtain ⟨_, closed⟩ := closes_end (r := Shorter.and ⟨_, named'⟩ ⟨_, shorter⟩) (by decide) rfl
  rw [members, named]
  dsimp only
  rw [read]
  dsimp only
  rw [closed]
  exact .of_eq (by rw [Members.set_new new]) rfl

theorem members_more {after : List Char} {a : Value} (textual : m.2.IsTextual n)
    (read : m.2.IsReadAt n) (new : m.1 ∉ seen.map Prod.fst) (solid : skipSpace after = after)
    (later : ∀ h, Leaves (members whole n (seen ++ [m]) after h) a rest)
    (h : (Style.compact.string m.1 ++
      ':' :: ' ' :: (Style.compact.value depth m.2 ++ ',' :: ' ' :: after)).length ≤ whole.length) :
    Leaves (members whole n seen (Style.compact.string m.1 ++
      ':' :: ' ' :: (Style.compact.value depth m.2 ++ ',' :: ' ' :: after)) h) a rest := by
  obtain ⟨named', named⟩ := memberName_written m.1
    (skipSpace_value textual depth (',' :: ' ' :: after))
  obtain ⟨shorter, read⟩ := read depth _ (',' :: ' ' :: after) (Nat.le_refl _)
  have other : ',' ≠ '\x7d' := by decide
  obtain ⟨_, open'⟩ := closes_comma (r := Shorter.and ⟨_, named'⟩ ⟨_, shorter⟩) other solid rfl
  rw [members, named]
  dsimp only
  rw [read]
  dsimp only
  rw [open']
  simp only [Members.set_new new]
  exact later _

theorem members_written (depth : Nat) (seen : Members) {ms : Members}
    (distinct : ((seen ++ m :: ms).map Prod.fst).Nodup)
    (textual : ∀ u ∈ m :: ms, u.2.IsTextual n) (each : ∀ u ∈ m :: ms, u.2.IsReadAt n)
    {text : List Char} (written : text =
      Style.compact.string m.1 ++ ':' :: ' ' :: (Style.compact.value depth m.2 ++
        following '\x7d' (Style.compact.members depth ms) rest))
    (h : text.length ≤ whole.length) :
    Leaves (members whole n seen text h) (.object (seen ++ m :: ms)) rest := by
  induction ms generalizing seen m text with
  | nil =>
    rw [Style.members] at written
    obtain rfl := written
    exact members_last (textual m (.head _)) (each m (.head _)) (Members.not_among distinct) h
  | cons u us ih =>
    rw [Style.members, following_cons, List.append_assoc, List.cons_append, List.cons_append]
      at written
    obtain rfl := written
    have distinct' : ((seen ++ [m] ++ u :: us).map Prod.fst).Nodup := by
      rwa [List.append_assoc]
    have later := ih (seen ++ [m]) distinct' (fun w among => textual w (.tail _ among))
      (fun w among => each w (.tail _ among)) rfl
    rw [List.append_assoc] at later
    exact members_more (textual m (.head _)) (each m (.head _)) (Members.not_among distinct)
      (string_append _ _ ▸ skipSpace_solid (by decide)) later h

end

section

variable {n : Nat} {b c d : Char}

theorem Shorter.spaced_first (solid : isSpace c = false) :
    Shorter.spaced (s := b :: c :: rest) ⟨c :: rest, Nat.lt_succ_self _⟩ =
      ⟨c :: rest, Nat.lt_succ_self _⟩ :=
  spaced_solid solid rfl

theorem Shorter.behind?_first (solid : isSpace c = false) (other : c ≠ d) :
    behind? d (Shorter.spaced (s := b :: c :: rest) ⟨c :: rest, Nat.lt_succ_self _⟩).1 = none := by
  rw [spaced_first solid]
  exact behind?_other other

theorem value_string (h : ('"' :: rest).length ≤ whole.length) :
    value whole n ('"' :: rest) h =
      (stringTail whole rest [] rest (Nat.le_of_succ_le h)).map
        fun (text, r) => (.string text, r) := by
  have opens : front ('"' :: rest) = .string ⟨rest, Nat.lt_succ_self _⟩ := rfl
  rw [value, opens]

theorem value_array (solid : isSpace c = false) (other : c ≠ ']')
    (h : ('[' :: c :: rest).length ≤ whole.length) : value whole (n + 1) ('[' :: c :: rest) h =
      items whole n [] (c :: rest) (Nat.le_of_succ_le h) := by
  have opens : front ('[' :: c :: rest) = .array ⟨c :: rest, Nat.lt_succ_self _⟩ := rfl
  rw [value, opens]
  dsimp only
  rw [Shorter.behind?_first solid other]
  simp only [Shorter.spaced_first solid]
  rfl

theorem value_object (solid : isSpace c = false) (other : c ≠ '\x7d')
    (h : ('\x7b' :: c :: rest).length ≤ whole.length) :
    value whole (n + 1) ('\x7b' :: c :: rest) h =
      members whole n [] (c :: rest) (Nat.le_of_succ_le h) := by
  have opens : front ('\x7b' :: c :: rest) = .object ⟨c :: rest, Nat.lt_succ_self _⟩ := rfl
  rw [value, opens]
  dsimp only
  rw [Shorter.behind?_first solid other]
  simp only [Shorter.spaced_first solid]
  rfl

end

/-- A value that was written is read up to its end, whatever stands behind it. -/
theorem Value.IsTextual.isReadAt {n : Nat} {v : Value} (textual : v.IsTextual n) :
    v.IsReadAt n := by
  intro depth whole rest h
  generalize written : Style.compact.value depth v ++ rest = text at h
  -- whatever stands behind: items of a list stand before different texts
  induction textual generalizing depth whole rest text with
  | string text =>
    rw [Style.value, string_append] at written
    obtain rfl := written
    obtain ⟨_, read⟩ := stringTail_written _ text (Nat.le_of_succ_le h)
    rw [value_string, read]
    exact .of_eq rfl rfl
  | @array n items each ih =>
    cases items with
    | nil =>
      rw [Style.value, Style.items] at written
      obtain rfl : '[' :: ']' :: rest = text := written
      rw [value]
      exact .of_eq rfl rfl
    | cons v vs =>
      obtain ⟨c, among, later, head⟩ := value_head (each v (.head _)) (depth + 1)
      have other : c ≠ ']' := by
        rintro rfl
        exact absurd among (by decide)
      rw [Style.value, Style.items, enclosed_append, head, List.cons_append] at written
      obtain rfl := written
      rw [value_array (opening_solid c among) other]
      exact items_written (depth + 1) each
        (fun u among depth whole rest h => ih u among depth whole rest _ rfl h)
        (by rw [head, List.cons_append]) _
  | @object n members distinct each ih =>
    cases members with
    | nil =>
      rw [Style.value, Style.members] at written
      obtain rfl : '\x7b' :: '\x7d' :: rest = text := written
      rw [value]
      exact .of_eq rfl rfl
    | cons m ms =>
      rw [Style.value, Style.members, enclosed_append, List.append_assoc, string_append] at written
      obtain rfl := written
      rw [value_object (by decide) (by decide)]
      exact members_written (depth + 1) [] distinct each
        (fun u among depth whole rest h => ih u among depth whole rest _ rfl h)
        (string_append _ _).symm _

theorem Value.IsTextual.strings {n : Nat} (texts : List String) :
    (Value.array (texts.map .string)).IsTextual (n + 1) :=
  .array (List.forall_mem_map.mpr fun text _ => .string text)

theorem Value.IsTextual.mono {n n' : Nat} {v : Value} (textual : v.IsTextual n) (le : n ≤ n') :
    v.IsTextual n' := by
  induction textual generalizing n' with
  | string s => exact .string s
  | array each ih =>
    obtain ⟨k, rfl⟩ := Nat.exists_eq_add_of_lt (Nat.lt_of_succ_le le)
    exact .array fun u among => ih u among (Nat.le_add_right _ _)
  | object distinct each ih =>
    obtain ⟨k, rfl⟩ := Nat.exists_eq_add_of_lt (Nat.lt_of_succ_le le)
    exact .object distinct fun u among => ih u among (Nat.le_add_right _ _)

/-- Reading what was written gives the value back, where the host bears its brackets. -/
theorem read_line [Host] {n : Nat} {v : Value} (textual : v.IsTextual n)
    (deep : n ≤ Host.jsonDepth) : read v.line = .ok v := by
  have solid : skipSpace (Style.compact.value 0 v) = Style.compact.value 0 v := by
    simpa using skipSpace_value textual 0 []
  have unmarked : (Style.compact.value 0 v).head? ≠ some (Char.ofNat 0xFEFF) := by
    obtain ⟨c, among, written, same⟩ := value_head textual 0
    rw [same]
    rintro ⟨⟩
    exact absurd among (by decide)
  have all : ∀ s, s = Style.compact.value 0 v →
      Leaves (value s Host.jsonDepth s (Nat.le_refl _)) v [] := by
    rintro s rfl
    have behind (h) := (textual.mono deep).isReadAt 0 (Style.compact.value 0 v) [] h
    rw [List.append_nil] at behind
    exact behind _
  obtain ⟨_, all⟩ := all _ solid
  have chars : readChars (Style.compact.value 0 v) = .ok v := by
    simp only [readChars, beq_eq_false_iff_ne.mpr unmarked, all]
    rfl
  rw [read, Value.line, Value.write, String.toList_ofList, chars]
  rfl

end BuildLog.Json
