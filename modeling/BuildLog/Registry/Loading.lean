import BuildLog.Registry.Catalog
import BuildLog.World.Basic

/-! Loading rule documents from files. -/
namespace BuildLog.Registry

open Text

variable [Host]

/-- The registry with the rules of a file, or why they cannot be used. -/
def loadFile (w : World) (path : Path) (g : Registry) : Run (Except String Registry) := do
  match ← w.document path with
  | .error e => return .error (e.message path.text)
  | .ok text =>
    match ← (g.load text).attempt with
    | .ok (_, g) => return .ok g
    | .error (.config e) => return .error e.message
    | .error e => throw e

/-- The registry with the rules of all files. -/
def loadFiles (w : World) (g : Registry) : List Path → Run (Except String Registry)
  | [] => return .ok g
  | path :: rest => do
    match ← g.loadFile w path with
    | .ok g => g.loadFiles w rest
    | .error reason => return .error s!"Could not load {path.text}: {reason}"

/-- The rule documents of a folder by name. -/
def documentsIn (w : World) (folder : Path) : List Path :=
  ((w.children folder).filter (endsWith · ".json")).map folder.child

/-- The registry with the rules of a folder; files that cannot be used are passed over. -/
def loadFolder (w : World) (g : Registry) : List Path → Run Registry
  | [] => return g
  | path :: rest => do
    match ← g.loadFile w path with
    | .ok g => g.loadFolder w rest
    | .error reason =>
      Run.tell (.configSkipped path.name reason)
      g.loadFolder w rest

end BuildLog.Registry
