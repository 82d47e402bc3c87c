import BuildLog.Timestamp.Calendar

/-! What the program takes from the host that it runs on: the present day, which completes
timestamps, the characters that patterns may call by name, and how deep a text may nest before
there is no more stack to read it with. -/
namespace BuildLog

/-- Names of characters are made of letters, digits, blanks and hyphens. -/
def isNameLetter (c : Char) : Bool := c.isAlphanum || c == ' ' || c == '-'

class Host where
  today : Timestamp.Day
  /-- Open brackets in JSON. -/
  jsonDepth : Nat
  /-- Open groups in a pattern. -/
  groupDepth : Nat
  charNamed? : String → Option Char
  spelled {name : String} {c : Char} : charNamed? name = some c → name.toList.all isNameLetter

namespace Host

def digitNames : List (String × Char) :=
  ["ZERO", "ONE", "TWO", "THREE", "FOUR", "FIVE", "SIX", "SEVEN", "EIGHT", "NINE"].mapIdx
    fun n name => ("DIGIT " ++ name, Char.ofNat (48 + n))

def letterNames : List (String × Char) :=
  (List.range 26).flatMap fun n =>
    let capital := Char.ofNat (65 + n)
    [("LATIN CAPITAL LETTER " ++ capital.toString, capital),
      ("LATIN SMALL LETTER " ++ capital.toString, Char.ofNat (97 + n))]

def signNames : List (String × Char) := [
  ("SPACE", ' '), ("EXCLAMATION MARK", '!'), ("QUOTATION MARK", '"'), ("NUMBER SIGN", '#'),
  ("DOLLAR SIGN", '$'), ("PERCENT SIGN", '%'), ("AMPERSAND", '&'), ("APOSTROPHE", '\''),
  ("LEFT PARENTHESIS", '('), ("RIGHT PARENTHESIS", ')'), ("ASTERISK", '*'), ("PLUS SIGN", '+'),
  ("COMMA", ','), ("HYPHEN-MINUS", '-'), ("FULL STOP", '.'), ("SOLIDUS", '/'), ("COLON", ':'),
  ("SEMICOLON", ';'), ("LESS-THAN SIGN", '<'), ("EQUALS SIGN", '='), ("GREATER-THAN SIGN", '>'),
  ("QUESTION MARK", '?'), ("COMMERCIAL AT", '@'), ("LEFT SQUARE BRACKET", '['),
  ("REVERSE SOLIDUS", '\\'), ("RIGHT SQUARE BRACKET", ']'), ("CIRCUMFLEX ACCENT", '^'),
  ("LOW LINE", '_'), ("GRAVE ACCENT", Char.ofNat 96), ("LEFT CURLY BRACKET", '\x7b'),
  ("VERTICAL LINE", '|'), ("RIGHT CURLY BRACKET", '\x7d'), ("TILDE", '~')]

/-- The names of the printable ASCII characters. -/
def asciiNames : List (String × Char) := digitNames ++ letterNames ++ signNames

theorem asciiNames_spelled : ∀ entry ∈ asciiNames, entry.1.toList.all isNameLetter := by
  decide +kernel

theorem isNameLetter_of_toUpper {c : Char} (letter : isNameLetter c.toUpper) :
    isNameLetter c := by
  unfold Char.toUpper at letter
  split at letter
  next small =>
    have lower : c.isLower = true := by
      change (decide _ && decide _) = true
      simpa using small
    change (c.isUpper || c.isLower || c.isDigit || c == ' ' || c == '-') = true
    simp [lower]
  next => exact letter

/-- A host that knows the ASCII characters by name, in capital or in small letters. -/
abbrev ascii (today : Timestamp.Day) : Host where
  today := today
  jsonDepth := 985
  groupDepth := 490
  charNamed? name := (asciiNames.find? (·.1 == name.toUpper)).map Prod.snd
  spelled := by
    intro name c known
    obtain ⟨entry, found, -⟩ := Option.map_eq_some_iff.mp known
    have listed := asciiNames_spelled entry (List.mem_of_find?_eq_some found)
    have same : entry.1 = name.toUpper := by simpa using List.find?_some found
    rw [same, String.toUpper, String.toList_map, List.all_map] at listed
    exact List.all_eq_true.mpr fun x member =>
      isNameLetter_of_toUpper (List.all_eq_true.mp listed x member)

/-- The host of the runs that are recorded. -/
instance recorded : Host := ascii ⟨2024, 3, 31⟩

end BuildLog.Host
