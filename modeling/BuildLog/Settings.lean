import BuildLog.Attributes
import BuildLog.Decimal.Reading
import BuildLog.Line
import BuildLog.World.Path

/-! Settings taken from environment variables. -/
namespace BuildLog

open Text

structure Settings where
  limit : Int := Line.defaultLimit
  /-- Seconds to wait for a page. -/
  patience : Float := 10
  folder : Option Path := none
  logLevel : String := "INFO"

namespace Settings

inductive Error where
  | limitNotInteger (text : String)
  | patienceNotNumber (text : String)
deriving DecidableEq

def Error.message : Error → String
  | .limitNotInteger text => "The limit of a line's length is not an integer: " ++ text
  | .patienceNotNumber text => "The time to wait for a page is not a number: " ++ text

def limitVariable : String := "HUGIN_MAX_LINE_LENGTH"

def patienceVariable : String := "HUGIN_CONFIG_FETCH_TIMEOUT"

def folderVariable : String := "HUGIN_PARSER_CONFIG_DIR"

def logLevelVariable : String := "HUGIN_LOG_LEVEL"

def variableNames : List String :=
  [limitVariable, patienceVariable, folderVariable, logLevelVariable]

/-- What a variable says, or else the default. -/
def readOr {α : Type} (text : Option String) (otherwise : α) (read : String → Except Error α) :
    Except Error α :=
  match text with
  | none => .ok otherwise
  | some text => read text

def readLimit (text : String) : Except Error Int :=
  ((Decimal.wholeInt? text.toList).map .ok).getD (.error (.limitNotInteger text))

def readPatience (text : String) : Except Error Float :=
  ((Decimal.wholeFloat? text.toList).map .ok).getD (.error (.patienceNotNumber text))

def read (env : Attributes) : Except Error Settings := do
  let limit ← readOr (env.get? limitVariable) Line.defaultLimit readLimit
  let patience ← readOr (env.get? patienceVariable) 10 readPatience
  let folder := env.get folderVariable
  return {
    limit
    patience
    folder := if folder.isEmpty then none else some (.read folder)
    logLevel := upper ((env.get? logLevelVariable).getD "INFO") }

end Settings

end BuildLog
