import BuildLog.Text.Blank
import BuildLog.Text.Casing
import BuildLog.Text.Search

/-! Format specifiers: how a user says in which format a log is written. A list of them is tried
from left to right. -/
namespace BuildLog

open Text

inductive Specifier where
  /-- No format at all. -/
  | unknown
  | auto
  /-- A pattern given on the spot. -/
  | pattern (source : String)
  /-- A group, a format or a rule document, without blanks around it. -/
  | named (name : String)
deriving DecidableEq

namespace Specifier

def patternMark : String := "regexp:"

def ofText (text : String) : Specifier :=
  let s := stripped text
  if s.isEmpty || s == "unknown" then .unknown
  else if s == "auto" then .auto
  else
    match dropStart? patternMark.toList s.toList with
    | some source => .pattern (String.ofList source)
    | none => .named s

/-- A pattern may hold commas, so it is not cut at them. -/
def isPattern (text : String) : Bool := startsWith (stripped text) patternMark

/-- The specifiers of a text. -/
def parts (text : String) : List String :=
  if isPattern text then [text] else pieces ',' text

def documentMark : String := "config:"

/-- Whether a name refers to a rule document. -/
def isDocument (name : String) : Bool :=
  let s := stripped name
  startsWith s documentMark || endsWith (lower s) ".json"

/-- The place of a rule document. -/
def location (name : String) : String :=
  let s := (stripped name).toList
  match dropStart? documentMark.toList s with
  | some rest => String.ofList (trim rest)
  | none => String.ofList s

/-- A location on the web. -/
def isUrl (location : String) : Bool :=
  startsWith (lower location) "http://" || startsWith (lower location) "https://"

end Specifier

end BuildLog
