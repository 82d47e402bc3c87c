import BuildLog.Line
import BuildLog.Text.Blank
import BuildLog.Text.Search

/-! Payloads: the JSON or XML document inside a log, behind whatever the tools printed before. -/
namespace BuildLog

/-- The family of documents that a format reads. -/
inductive Family where
  | text
  | json
  | xml
deriving DecidableEq

def Family.name : Family → String
  | .text => "text"
  | .json => "json"
  | .xml => "xml"

namespace Payload

def isBracket (c : Char) : Bool := c == '[' || c == '\x7b'

/-- What may follow the first bracket of a document. -/
def mayFollow (c : Char) : Bool :=
  "\"\x7b[]\x7d0123456789 \t\r\n".toList.contains c

def opensJson : List Char → Bool
  | [] => false
  | [c] => isBracket c
  | c :: next :: _ => isBracket c && mayFollow next

/-- The text from the first line on that opens a JSON document. -/
def jsonFrom? (atLineStart : Bool) : List Char → Option (List Char)
  | [] => none
  | c :: rest =>
    if atLineStart && opensJson (c :: rest) then some (c :: rest)
    else jsonFrom? (c == '\n') rest

/-- A text whose first character is a bracket is taken whole, and so is one without a document. -/
def json (cs : List Char) : List Char :=
  if ((Text.trimStart cs).head?.map isBracket).getD false then cs
  else (jsonFrom? true cs).getD cs

def declaration : List Char := "<?xml".toList

def opensElement : List Char → Bool
  | '<' :: c :: _ => c.isAlpha
  | _ => false

/-- The text from the first line on that opens with an element. -/
def elementFrom? (atLineStart : Bool) : List Char → Option (List Char)
  | [] => none
  | c :: rest =>
    if atLineStart && opensElement (c :: rest) then some (c :: rest)
    else elementFrom? (c == '\n') rest

/-- The text from the first XML declaration on, else from the first line with an element. -/
def xml (cs : List Char) : List Char :=
  match Text.find? declaration cs with
  | some i => cs.drop i
  | none => (elementFrom? true cs).getD cs

end Payload

/-- The part of a log that formats of the family read. -/
def Family.payload (family : Family) (content : String) : String :=
  match family with
  | .text => content
  | .json => String.ofList (Payload.json (Line.normalizeChars content.toList))
  | .xml => String.ofList (Payload.xml (Line.normalizeChars content.toList))

end BuildLog
