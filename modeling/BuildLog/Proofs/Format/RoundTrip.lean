import BuildLog.Format.Logfmt
import BuildLog.Proofs.Decimal.Numeral

/-! Lines of pairs, written and read back. A value stands in a line as it is, or in double quotes
with a backslash before each quote and each backslash in it. Either way the line gives back the
pairs that it was written from. -/
namespace BuildLog

open Text

/-- Names that are not there yet are added at the end. -/
theorem Attributes.foldl_set (found pairs : Attributes)
    (distinct : ((found ++ pairs).map (·.1)).Nodup) :
    pairs.foldl (fun found (key, text) => found.set key text) found = found ++ pairs := by
  induction pairs generalizing found with
  | nil => simp
  | cons pair rest ih =>
    obtain ⟨key, text⟩ := pair
    have fresh : found.has key = false := by
      rw [List.map_append, List.map_cons, List.nodup_append] at distinct
      simp only [has, get?, Option.isSome_eq_false_iff, Option.isNone_iff_eq_none,
        List.lookup_eq_none_iff]
      intro q member
      have apart := distinct.2.2 q.1 (List.mem_map_of_mem member) key List.mem_cons_self
      simpa using apart.symm
    have added : found.set key text = found ++ [(key, text)] := by simp [set, fresh]
    simp only [List.foldl_cons, added]
    simpa using ih (found ++ [(key, text)]) (by simpa using distinct)

namespace Format.Logfmt

/-- ASCII letters, digits and the signs `_`, `.` and `-`; a letter or `_` comes first. -/
def isKey : List Char → Bool
  | [] => false
  | c :: rest => (c.isAlpha || c == '_') &&
      rest.all fun d => d.isAlphanum || d == '_' || d == '.' || d == '-'

structure IsBare (cs : List Char) : Prop where
  solid : ∀ c ∈ cs, isBlank c = false
  unquoted : cs.head? ≠ some '"'

instance (cs : List Char) : Decidable (IsBare cs) :=
  decidable_of_iff (cs.all (!isBlank ·) = true ∧ cs.head? ≠ some '"')
    ⟨fun ⟨solid, unquoted⟩ => ⟨by simpa using solid, unquoted⟩,
      fun bare => ⟨by simpa using bare.solid, bare.unquoted⟩⟩

def escape (c : Char) : List Char := if c = '"' ∨ c = '\\' then ['\\', c] else [c]

def escaped (cs : List Char) : List Char := cs.flatMap escape

structure Entry where
  key : String
  text : String
  inQuotes : Bool
  isKey : isKey key.toList = true
  fits : inQuotes = false → IsBare text.toList

namespace Entry

def pair (e : Entry) : String × String := (e.key, e.text)

def writtenText (e : Entry) : List Char :=
  if e.inQuotes then '"' :: (escaped e.text.toList ++ ['"']) else e.text.toList

def written (e : Entry) : List Char := e.key.toList ++ '=' :: e.writtenText

end Entry

def written : List Entry → List Char
  | [] => []
  | [e] => e.written
  | e :: rest => e.written ++ ' ' :: written rest

def lineOf (entries : List Entry) : String := String.ofList (written entries)

@[simp] theorem escaped_cons (c : Char) (cs : List Char) :
    escaped (c :: cs) = escape c ++ escaped cs := rfl

theorem escape_plain {c : Char} (noQuote : c ≠ '"') (noSlash : c ≠ '\\') : escape c = [c] := by
  simp [escape, noQuote, noSlash]

/-- The scan for the closing quote takes what was escaped for what was written. -/
theorem quoted?_escaped (cs rest : List Char) :
    quoted? (escaped cs ++ '"' :: rest) = some (escaped cs) := by
  induction cs with
  | nil => rfl
  | cons c cs ih =>
    by_cases quote : c = '"'
    · subst quote
      simp [escape, quoted?, ih]
    by_cases slash : c = '\\'
    · subst slash
      simp [escape, quoted?, ih]
    · simp [escape_plain quote slash, quoted?, slash, ih]

/-- No quote stands in an escaped text without the backslash that was put before it. -/
theorem escaped_head_ne (cs : List Char) : (escaped cs).head? ≠ some '"' := by
  cases cs with
  | nil => simp [escaped]
  | cons c rest =>
    by_cases quote : c = '"'
    · simp [escape, quote]
    by_cases slash : c = '\\'
    · simp [escape, slash]
    · simp [escape_plain quote slash, quote]

def doubled (c : Char) : List Char := if c = '\\' then ['\\', '\\'] else [c]

theorem plainQuotes_slash {cs : List Char} (noQuote : cs.head? ≠ some '"') :
    plainQuotes ('\\' :: cs) = '\\' :: plainQuotes cs := by
  cases cs with
  | nil => rfl
  | cons c rest =>
    rw [plainQuotes]
    rintro rest' - same
    rw [same] at noQuote
    exact noQuote rfl

theorem plainQuotes_cons {c : Char} (noSlash : c ≠ '\\') (cs : List Char) :
    plainQuotes (c :: cs) = c :: plainQuotes cs := by
  rw [plainQuotes]
  rintro rest rfl
  exact absurd rfl noSlash

/-- What is left without the escapes of the quotes still has each backslash twice. A backslash
that was in the text is followed by its partner, and the partner by an escaped text, so neither
is taken for the backslash of a quote. -/
theorem plainQuotes_escaped (cs : List Char) :
    plainQuotes (escaped cs) = cs.flatMap doubled := by
  induction cs with
  | nil => rfl
  | cons c cs ih =>
    by_cases quote : c = '"'
    · subst quote
      simp [escape, plainQuotes, doubled, ih]
    by_cases slash : c = '\\'
    · subst slash
      have inner := plainQuotes_slash (escaped_head_ne cs)
      have outer : plainQuotes ('\\' :: '\\' :: escaped cs) =
          '\\' :: plainQuotes ('\\' :: escaped cs) := plainQuotes_slash (by simp)
      simp [escape, doubled, outer, inner, ih]
    · simp [escape, doubled, quote, slash, plainQuotes_cons slash, ih]

theorem plainBackslashes_doubled (cs : List Char) : plainBackslashes (cs.flatMap doubled) = cs := by
  induction cs with
  | nil => rfl
  | cons c cs ih =>
    by_cases slash : c = '\\'
    · subst slash
      simp [doubled, plainBackslashes, ih]
    · simp [doubled, slash, plainBackslashes, ih]

theorem plain_escaped (cs : List Char) : plainBackslashes (plainQuotes (escaped cs)) = cs := by
  rw [plainQuotes_escaped, plainBackslashes_doubled]

/-- What may follow a value: nothing, or a blank and anything behind it. -/
def IsEnd (rest : List Char) : Prop := ∀ c, rest.head? = some c → isBlank c = true

theorem value_bare {cs rest : List Char} (bare : IsBare cs) (ends : IsEnd rest) :
    value (cs ++ rest) = (cs, cs.length) := by
  have unquoted (more : List Char) : cs ++ rest ≠ '"' :: more := by
    intro same
    cases cs with
    | nil =>
      have blank := ends '"' (by simpa using congrArg List.head? same)
      exact absurd blank (by decide)
    | cons c cs => exact bare.unquoted (by simpa using (List.cons.inj same).1)
  have run : (cs ++ rest).takeWhile (!isBlank ·) = cs := by
    have stopped : rest.takeWhile (!isBlank ·) = [] := by
      cases rest with
      | nil => rfl
      | cons c rest => simp [ends c rfl]
    rw [List.takeWhile_append_of_pos (by simpa using bare.solid), stopped, List.append_nil]
  unfold value
  split
  next more same => exact absurd same (unquoted more)
  next => simp only [value.bare, run]

theorem value_quoted (cs rest : List Char) :
    value ('"' :: (escaped cs ++ ['"'] ++ rest)) = (cs, (escaped cs).length + 2) := by
  have closed : quoted? (escaped cs ++ ['"'] ++ rest) = some (escaped cs) := by
    simpa using quoted?_escaped cs rest
  simp only [value, closed, plain_escaped]

/-- A value is read as it was written, up to where its writing ends. -/
theorem value_written (e : Entry) {rest : List Char} (ends : IsEnd rest) :
    value (e.writtenText ++ rest) = (e.text.toList, e.writtenText.length) := by
  unfold Entry.writtenText
  split
  next => simpa using value_quoted e.text.toList rest
  next bare => exact value_bare (e.fits (by simpa using bare)) ends

theorem isWord_of_ascii {c : Char} (ascii : c.isAlphanum = true) : isWord c = true := by
  rcases Bool.or_eq_true_iff.mp ascii with letter | digit
  · have small : c.toNat < 128 := by
      rcases Bool.or_eq_true_iff.mp letter with upper | lower
      · have most : c.val ≤ 'Z'.val := (of_decide_eq_true upper).2
        exact Nat.lt_of_le_of_lt (UInt32.le_iff_toNat_le.mp most) (by decide)
      · have most : c.val ≤ 'z'.val := of_decide_eq_true (Bool.and_eq_true_iff.mp lower).2
        exact Nat.lt_of_le_of_lt (UInt32.le_iff_toNat_le.mp most) (by decide)
    simp [isWord, isLetter, small, letter]
  · simp [isWord, isNumeral, isDigit, isDecimal, Decimal.decimal?_of_ascii digit]

theorem inKey_of_ascii {c : Char}
    (sign : (c.isAlphanum || c == '_' || c == '.' || c == '-') = true) : inKey c = true := by
  simp only [Bool.or_eq_true, beq_iff_eq] at sign
  rcases sign with ((letter | rfl) | rfl) | rfl
  · simp [inKey, isWord_of_ascii letter]
  all_goals decide +kernel

/-- A key and its equals sign lead to a value. -/
theorem pairsFrom_key {c : Char} {key : List Char} (valid : isKey (c :: key) = true)
    (after : List Char) :
    pairsFrom (c :: (key ++ '=' :: after)) =
      (String.ofList (c :: key), String.ofList (value after).1) ::
        pairsFrom (after.drop (value after).2) := by
  simp only [isKey, Bool.and_eq_true, List.all_eq_true] at valid
  have starts : startsKey c = true := by simpa [startsKey, isAsciiLetter] using valid.1
  have run : (key ++ '=' :: after).takeWhile inKey = key := by
    rw [List.takeWhile_append_of_pos fun d member => inKey_of_ascii (valid.2 d member)]
    simp [show inKey '=' = false by decide +kernel]
  have behind : (key ++ '=' :: after).drop ((key ++ '=' :: after).takeWhile inKey).length =
      '=' :: after := by rw [run, List.drop_left]
  rw [pairsFrom, if_pos starts]
  dsimp only
  split
  next after' found =>
    rw [behind] at found
    rw [run, (List.cons.inj found).2]
  next missing => exact absurd behind (missing after)

/-- An entry is read off the front of a text. -/
theorem pairsFrom_written (e : Entry) {rest : List Char} (ends : IsEnd rest) :
    pairsFrom (e.written ++ rest) = e.pair :: pairsFrom rest := by
  have valid := e.isKey
  cases named : e.key.toList with
  | nil => simp [named, isKey] at valid
  | cons c key =>
    rw [named] at valid
    have text : e.written ++ rest = c :: (key ++ '=' :: (e.writtenText ++ rest)) := by
      simp [Entry.written, named]
    rw [text, pairsFrom_key valid, value_written e ends, List.drop_left, ← named,
      String.ofList_toList, String.ofList_toList]
    rfl

theorem pairsFrom_space (rest : List Char) : pairsFrom (' ' :: rest) = pairsFrom rest := by
  rw [pairsFrom, if_neg (by decide)]

theorem pairsFrom_entries (entries : List Entry) :
    pairsFrom (written entries) = entries.map Entry.pair := by
  induction entries using written.induct with
  | case1 => rw [written, pairsFrom, List.map_nil]
  | case2 e =>
    have last : IsEnd [] := by simp [IsEnd]
    have read := pairsFrom_written e last
    rwa [List.append_nil, pairsFrom] at read
  | case3 e rest more ih =>
    have spaced : IsEnd (' ' :: written rest) := by
      rintro c first
      rw [← Option.some.inj first]
      decide
    rw [written, pairsFrom_written e spaced, pairsFrom_space, ih, List.map_cons]
    exact more

/-- A line of entries with different keys gives back their pairs, in their order: what was put in
quotes comes out of them with its quotes, backslashes, blanks and line ends, and what was not comes
out as it stood. -/
theorem pairs_lineOf (entries : List Entry) (distinct : (entries.map (·.key)).Nodup) :
    pairs (lineOf entries) = entries.map Entry.pair := by
  have keys : ((entries.map Entry.pair).map (·.1)).Nodup := by
    simpa [Function.comp_def, Entry.pair] using distinct
  rw [pairs, lineOf, String.toList_ofList, pairsFrom_entries,
    Attributes.foldl_set [] _ keys, List.nil_append]

/-- A value that holds a pair of its own, an escaped quote and a line end; one that is empty; one
with signs that count only in quotes; and a lone backslash. -/
def mixedEntries : List Entry :=
  [⟨"msg", "\\\" level=error\n", true, by decide, nofun⟩,
    ⟨"_a.b-1", "", false, by decide, fun _ => by decide⟩,
    ⟨"path", "C:\\=\"x\"", false, by decide, fun _ => by decide⟩,
    ⟨"end", "\\", true, by decide, nofun⟩]

theorem pairs_lineOf_mixed : (mixedEntries.map (·.key)).Nodup ∧
    lineOf mixedEntries = "msg=\"\\\\\\\" level=error\n\" _a.b-1= path=C:\\=\"x\" end=\"\\\\\"" ∧
    pairs (lineOf mixedEntries) =
      [("msg", "\\\" level=error\n"), ("_a.b-1", ""), ("path", "C:\\=\"x\""), ("end", "\\")] :=
  ⟨by decide, by decide, pairs_lineOf mixedEntries (by decide)⟩

end Format.Logfmt

end BuildLog
