import BuildLog.CommandLine.Session
import BuildLog.Settings
import Mathlib.Tactic.DeprecateTo

/-! The program. It gathers the files that the arguments point at and has them carried out. Pages
are not fetched here. The clock is the standard library's, which `Mathlib.Tactic.DeprecateTo` brings
in. -/
namespace BuildLog

/-- The world with what lies at a path, if anything does. -/
def World.gather (w : World) (p : Path) : IO World := do
  match ← (IO.FS.readBinFile p.text).toBaseIO with
  | .ok bytes => return { w with files := (p.plain, bytes.toList) :: w.files }
  | .error (.inappropriateType _ 21 _) => return { w with folders := p.plain :: w.folders }
  | .error _ => return w

/-- The home folder of the user. -/
def homeFolder : IO Path := do
  return (((← IO.getEnv "HOME").filter (!·.isEmpty)).map Path.read).getD ({} : World).home

/-- The home folders in the list of accounts. -/
def homeFolders : IO (List (String × Path)) := do
  match ← (IO.FS.readFile "/etc/passwd").toBaseIO with
  | .ok accounts =>
    return (accounts.splitOn "\n").filterMap fun account =>
      match account.splitOn ":" with
      | user :: _ :: _ :: _ :: _ :: home :: _ => some (user, Path.read home)
      | _ => none
  | .error _ => return []

/-- The world as far as the arguments point at it. -/
def surroundingWorld [Host] (texts : List String) : IO World := do
  let world : World := { home := ← homeFolder, homes := ← homeFolders }
  match CommandLine.Arguments.read texts with
  | .error _ => return world
  | .ok a => ((CommandLine.paths world a).flatMap Path.lineage).foldlM World.gather world

/-- The host with the day on which the program runs. -/
def presentHost : IO Host := do
  let date ← Std.Time.PlainDate.now
  return .ascii ⟨date.year.toNat, date.month.val.toNat, date.day.val.toNat⟩

/-- The environment variables that hold settings. -/
def settingsEnvironment : IO Attributes :=
  Settings.variableNames.filterMapM fun name => do return (← IO.getEnv name).map (name, ·)

def finish (ending : CommandLine.Ending) : IO UInt32 := do
  IO.print ending.output
  if ending.isRefused then IO.eprintln CommandLine.usage
  return ending.code.toUInt32

def run [Host] (settings : Settings) (texts : List String) : IO UInt32 := do
  let (result, notices) := (CommandLine.run (← surroundingWorld texts) settings.limit texts).result
  notices.forM fun notice => IO.eprintln notice.text
  match result with
  | .ok ending => finish ending
  | .error _ =>
    IO.eprintln "The log cannot be read."
    return 1

end BuildLog

def main (texts : List String) : IO UInt32 := do
  match BuildLog.Settings.read (← BuildLog.settingsEnvironment) with
  | .ok settings =>
    let host ← BuildLog.presentHost
    @BuildLog.run host settings texts
  | .error e =>
    IO.eprintln e.message
    return 1
