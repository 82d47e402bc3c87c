import BuildLog.Decimal.Layout
import BuildLog.Json.Value
import BuildLog.Text.Quoted

/-! JSON texts. On one line, items are separated by a comma and a space and a name is followed
by a colon and a space; with an indent, every item stands on a line of its own. -/
namespace BuildLog.Json

open BuildLog.Text

structure Style where
  /-- Characters outside ASCII are written as escapes. -/
  ascii : Bool
  indent : Option Nat

def Style.compact : Style := ⟨false, none⟩

def Style.asciiOnly : Style := ⟨true, none⟩

def escapeUnit (n : Nat) : List Char := ['\\', 'u'] ++ hex 4 n

/-- A character of a string. Above the basic plane an escape is a pair of surrogates. -/
def Style.escape (style : Style) (c : Char) : List Char :=
  let n := c.toNat
  if c == '"' then ['\\', '"']
  else if c == '\\' then ['\\', '\\']
  else if c == '\n' then ['\\', 'n']
  else if c == '\r' then ['\\', 'r']
  else if c == '\t' then ['\\', 't']
  else if n == 8 then ['\\', 'b']
  else if n == 12 then ['\\', 'f']
  else if n < 32 then escapeUnit n
  else if n < 127 || !style.ascii then [c]
  else if n < 0x10000 then escapeUnit n
  else escapeUnit (0xD800 + (n - 0x10000) / 0x400) ++ escapeUnit (0xDC00 + (n - 0x10000) % 0x400)

def Style.string (style : Style) (s : String) : List Char :=
  '"' :: s.toList.flatMap style.escape ++ ['"']

/-- The line break before an item at the given depth. -/
def Style.lineBreak (style : Style) (depth : Nat) : List Char :=
  match style.indent with
  | none => []
  | some n => '\n' :: List.replicate (n * depth) ' '

def Style.comma (style : Style) (depth : Nat) : List Char :=
  match style.indent with
  | none => [',', ' ']
  | some _ => ',' :: style.lineBreak depth

/-- Items between brackets; an empty sequence has no line breaks. -/
def Style.enclosed (style : Style) (depth : Nat) (opening closing : Char) :
    List (List Char) → List Char
  | [] => [opening, closing]
  | first :: rest =>
    opening :: style.lineBreak (depth + 1) ++ first ++
      rest.flatMap (style.comma (depth + 1) ++ ·) ++ style.lineBreak depth ++ [closing]

mutual

def Style.value (style : Style) (depth : Nat) : Value → List Char
  | .null => "null".toList
  | .bool b => (if b then "true" else "false").toList
  | .int n => (toString n).toList
  | .float x => (Decimal.Layout.json.text x).toList
  | .string s => style.string s
  | .array items => style.enclosed depth '[' ']' (style.items (depth + 1) items)
  | .object members => style.enclosed depth '\x7b' '\x7d' (style.members (depth + 1) members)

def Style.items (style : Style) (depth : Nat) : List Value → List (List Char)
  | [] => []
  | v :: rest => style.value depth v :: style.items depth rest

def Style.members (style : Style) (depth : Nat) : List (String × Value) → List (List Char)
  | [] => []
  | (name, v) :: rest =>
    (style.string name ++ ':' :: ' ' :: style.value depth v) :: style.members depth rest

end

def Value.write (style : Style) (v : Value) : String := String.ofList (style.value 0 v)

/-- One line, characters as they are. -/
def Value.line (v : Value) : String := v.write .compact

end BuildLog.Json
