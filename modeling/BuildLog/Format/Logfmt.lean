import BuildLog.Attributes
import BuildLog.Format.Basic
import BuildLog.Text.Digits
import BuildLog.Timestamp.Reading

/-! Lines of `key=value` pairs. A value in double quotes may hold blanks; inside, a backslash
stands before a quote or a backslash. -/
namespace BuildLog.Format.Logfmt

open Text

variable [Host]

def profile : Profile where
  format := "logfmt"
  title := "logfmt"
  category := "structured_log"
  description := "key=value structured log lines (Heroku / Go logfmt)"
  priority := 80
  groups := ["logging", "structured"]
  tool := "logfmt"

def startsKey (c : Char) : Bool := isAsciiLetter c || c == '_'

def inKey (c : Char) : Bool := isWord c || c == '.' || c == '-'

/-- The characters before the closing quote, as written. A backslash
takes the next character with it, which may not be a line feed. -/
def quoted? : List Char → Option (List Char)
  | [] => none
  | '"' :: _ => some []
  | '\\' :: c :: rest => if c == '\n' then none else (quoted? rest).map fun cs => '\\' :: c :: cs
  | c :: rest => if c == '\\' then none else (quoted? rest).map (c :: ·)

/-- Quotes without the backslash before them. -/
def plainQuotes : List Char → List Char
  | '\\' :: '"' :: rest => '"' :: plainQuotes rest
  | c :: rest => c :: plainQuotes rest
  | [] => []

/-- Backslashes without the backslash before them. -/
def plainBackslashes : List Char → List Char
  | '\\' :: '\\' :: rest => '\\' :: plainBackslashes rest
  | c :: rest => c :: plainBackslashes rest
  | [] => []

/-- The value at the beginning of a text, and how many characters it takes. -/
def value (cs : List Char) : List Char × Nat :=
  match cs with
  | '"' :: rest =>
    match quoted? rest with
    | some written => (plainBackslashes (plainQuotes written), written.length + 2)
    | none => bare
  | _ => bare
where
  bare : List Char × Nat :=
    let v := cs.takeWhile (!isBlank ·)
    (v, v.length)

/-- The pairs of a text in order; what is no pair is passed over. -/
def pairsFrom : List Char → List (String × String)
  | [] => []
  | c :: rest =>
    if startsKey c then
      let key := rest.takeWhile inKey
      match _found : rest.drop key.length with
      | '=' :: after =>
        let (v, length) := value after
        (String.ofList (c :: key), String.ofList v) :: pairsFrom (after.drop length)
      | _ => pairsFrom (rest.drop key.length)
    else pairsFrom rest
termination_by cs => cs.length
decreasing_by
  · have := congrArg List.length _found
    simp only [List.length_drop, List.length_cons] at this ⊢
    omega
  · simp only [List.length_drop, List.length_cons]
    omega
  · simp

/-- The pairs of a line; a key that comes again takes the later value. -/
def pairs (line : String) : Attributes :=
  (pairsFrom line.toList).foldl (fun found (key, text) => found.set key text) []

/-- One of these keys marks a log. -/
def marks : List String := ["level", "msg", "lvl", "ts", "time"]

def isMarked (line : String) : Bool :=
  let found := pairs line
  2 ≤ found.length && marks.any found.has

/-- So many lines decide. -/
def sampleSize : Nat := 3

def accepts (content : String) : Run Bool :=
  let lines := ((Line.read Line.defaultLimit content).map (·.text)).filter (!isBlankText ·)
  let sample := lines.take sampleSize
  return !sample.isEmpty && sample.all isMarked

def eventOf (found : Attributes) : Event :=
  let (level, found) := found.takeFirst ["level", "lvl"]
  let (message, found) := found.takeFirst ["msg", "message"]
  let (time, found) := found.takeFirst ["ts", "time"]
  { profile.event.withVerdict (.ofLevel level) with
    kind := .debugEvent
    message
    origin := found.first ["caller", "logger"]
    code := found.first ["err", "error"]
    startedAt := Timestamp.iso time
    data := found.line }

def parseLine : LineReader := fun line number id =>
  let found := pairs line
  return if found.isEmpty then none else some { (eventOf found).onLine number line with id }

def format : Format := .ofLines profile accepts parseLine

end BuildLog.Format.Logfmt
