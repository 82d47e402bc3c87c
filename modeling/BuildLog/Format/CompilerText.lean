import BuildLog.Diagnostic
import BuildLog.Format.Basic
import BuildLog.Pattern.Search

/-! Diagnostics of compilers. A line that names a function holds for the diagnostics after it. -/
namespace BuildLog.Format.CompilerText

open Text
open Pattern (Node CharClass)

/-- A compiler by itself and with arguments. -/
def called (name : String) : List CommandPattern := [⟨name, .literal⟩, ⟨name ++ " %", .like⟩]

def profile : Profile where
  format := "gcc_text"
  title := "GCC/Clang"
  category := "build_system"
  description := "GCC, Clang and compatible compiler diagnostics"
  priority := 80
  aliases :=
    ["gcc", "g++", "clang", "clang++", "cc", "c++", "gfortran", "gnat", "compiler_diagnostic"]
  groups := ["c_cpp", "build"]
  tool := "compiler"
  commands :=
    ["gcc", "g++", "clang", "clang++"].flatMap called ++
      [⟨"gcc-%", .like⟩, ⟨"g++-%", .like⟩, ⟨"clang-%", .like⟩] ++
      ["cc", "c++", "gfortran"].flatMap called ++ [⟨"gnat", .literal⟩, ⟨"gnatmake %", .like⟩]

/-- `In function 'name'`, also for member functions. -/
def inFunction : Pattern := .ofNode ["func"] <| .seq [
  .literal "In ", .optional (.literal "member "), .literal "function ",
  .one (.oneOf "\x60'‘"), .group 1 (.many1 (.noneOf "'’")), .one (.oneOf "’'")]

/-- The flag in square brackets that ends the message of a warning. -/
def warningFlag : Pattern := .ofNode ["flag"] <| .seq [
  .many .blanks, .char '[', .group 1 (.cat (.literal "-W") (.many1 (.wordOr "-=+"))), .char ']',
  .anchor .lastLineEnd]

/-- The rules in square brackets that end the message of a checker that is no compiler. -/
def checkerRules : Pattern := .ofNode [] <| .seq [
  .char '[', .many1 (.ranges [('a', 'z')]),
  .repeated .greedy 1 none (.cat (.char '-') (.many1 (.ranges [('a', 'z'), ('0', '9')]))),
  .repeated .greedy 0 none
    (.cat (.char ',') (.many1 (.ranges [('a', 'z'), ('-', '-'), ('0', '9'), ('.', '.')]))),
  .char ']', .anchor .lastLineEnd]

/-- Files of these kinds come out of interpreters and their checkers. -/
def interpreted : List String := [".py", ".pyi", ".js", ".ts", ".rb", ".php"]

def diagnostic? (line : String) : Except Decimal.Error (Option Diagnostic) :=
  (Diagnostic.read? line).map fun d? => d?.filter fun d =>
    !interpreted.any (endsWith d.location.file) && !checkerRules.finds d.message

def accepts (content : String) : Run Bool := do
  (Line.read Line.defaultLimit content).anyM fun line =>
    return (← Run.ofNumber (diagnostic? line.text)).isSome

def verdict (severity : String) : Verdict :=
  if severity == "error" then .error else if severity == "warning" then .warning else .info

/-- A message without the flag that ends it, and the flag. -/
def splitFlag (message : String) : String × String :=
  match warningFlag.search message with
  | some m => (take m.first message, warningFlag.capture m "flag")
  | none => (message, "")

def eventOf (d : Diagnostic) (id : Int) : Event :=
  let (message, flag) := splitFlag d.message
  { profile.event.withVerdict (verdict d.severity) with
    id
    category := "compilation"
    kind := .buildError
    file := d.location.file
    line := .int d.location.line
    column := .int d.location.column
    message
    code := flag }

def parseLine : LineReader := fun line number id => do
  return (← Run.ofNumber (diagnostic? line)).map fun d => (eventOf d id).onLine number line

/-- The events of lines that stand inside a function. -/
def eventsIn (function : String) (id : Int) : List Line → Run (List Event)
  | [] => pure []
  | line :: rest => do
    match inFunction.search line.text with
    | some m => eventsIn (inFunction.capture m "func") id rest
    | none =>
      match ← parseLine line.text line.number id with
      | none => eventsIn function id rest
      | some e => return { e with function } :: (← eventsIn function (id + 1) rest)

def format : Format := .ofLines profile accepts parseLine (eventsIn "" 1)

end BuildLog.Format.CompilerText
