import BuildLog.Text.Blank
import BuildLog.Text.Casing

/-! Outcomes of an event and the words by which logs name them. -/
namespace BuildLog

open Text

inductive Status where
  | pass
  | fail
  | error
  | warning
  | skip
  | info
deriving DecidableEq, Repr

def Status.all : List Status := [.pass, .fail, .error, .warning, .skip, .info]

def Status.name : Status → String
  | .pass => "PASS"
  | .fail => "FAIL"
  | .error => "ERROR"
  | .warning => "WARNING"
  | .skip => "SKIP"
  | .info => "INFO"

def Status.ofName? (name : String) : Option Status := Status.all.find? (·.name == name)

/-- A status together with the severity it is reported under. -/
structure Verdict where
  status : Status
  severity : String
deriving DecidableEq

def Verdict.info : Verdict := ⟨.info, "info"⟩

def Verdict.warning : Verdict := ⟨.warning, "warning"⟩

def Verdict.error : Verdict := ⟨.error, "error"⟩

def Status.severity : Status → String
  | .pass | .info | .skip => "info"
  | .warning => "warning"
  | .fail | .error => "error"

/-- Names of log levels. -/
def levels : List (String × Verdict) :=
  [("TRACE", .info), ("DEBUG", .info), ("INFO", .info), ("NOTICE", .info),
    ("WARN", .warning), ("WARNING", .warning),
    ("ERROR", .error), ("ERR", .error), ("CRITICAL", .error), ("CRIT", .error),
    ("FATAL", .error), ("ALERT", .error), ("EMERG", .error), ("PANIC", .error)]

/-- The verdict of a level in any case; an unknown level is informational. -/
def Verdict.ofLevel (level : String) : Verdict :=
  (levels.lookup (upper (stripped level))).getD .info

/-- Words that a tool puts where it reports a severity. -/
def severityWords : List (String × Verdict) :=
  [("pass", ⟨.pass, "info"⟩), ("passed", ⟨.pass, "info"⟩), ("ok", ⟨.pass, "info"⟩),
    ("fail", ⟨.fail, "error"⟩), ("failed", ⟨.fail, "error"⟩),
    ("skip", ⟨.skip, "info"⟩), ("skipped", ⟨.skip, "info"⟩),
    ("error", .error), ("fatal", .error), ("critical", ⟨.error, "critical"⟩),
    ("warning", .warning), ("warn", .warning)]

/-- The verdict of a severity word; an unknown word is informational and kept. -/
def Verdict.ofSeverityWord (word : String) : Verdict :=
  let word := lower (stripped word)
  (severityWords.lookup word).getD ⟨.info, word⟩

/-- The status that a severity implies. -/
def statusOfSeverity (severity : String) : Status :=
  if severity == "error" || severity == "critical" then .error
  else if severity == "warning" then .warning
  else .info

/-- Words for the outcome of a test. -/
def testWords : List (String × Status) :=
  [("PASS", .pass), ("PASSED", .pass), ("OK", .pass), ("FAIL", .fail), ("FAILED", .fail),
    ("ERROR", .fail), ("SKIP", .skip), ("SKIPPED", .skip)]

def testStatus? (word : String) : Option Status := testWords.lookup (upper (stripped word))

/-- The words for a status in a rule document, in any case. -/
def Status.read? (word : String) : Option Status := Status.ofName? (upper (stripped word))

end BuildLog
