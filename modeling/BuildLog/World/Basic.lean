import BuildLog.Fault
import BuildLog.Line
import BuildLog.Text.Utf8
import BuildLog.World.Path

/-! What lies outside the program: files and pages. They are given beforehand and do not change. -/
namespace BuildLog

open Text

structure Page where
  status : Int
  reason : String
  text : String

def Page.isError (page : Page) : Bool := 400 ≤ page.status && page.status < 600

/-- What asks for pages. It refuses those whose status tells of an error, and has its own words for
that. -/
structure Client where
  /-- Said where nothing answers. -/
  silence : String
  refusal? : Page → String → Option String
  refuses (page : Page) (url : String) : (refusal? page url).isSome = page.isError

def Client.plain : Client where
  silence := "unreachable"
  refusal? page url :=
    let side := if page.status < 500 then "Client" else "Server"
    if page.isError then some s!"{page.status} {side} Error: {page.reason} for url: {url}" else none
  refuses page url := by cases page.isError <;> simp

structure World where
  home : Path := ⟨"/", ["root"]⟩
  /-- The home folders of users, by their names. -/
  homes : List (String × Path) := [("root", ⟨"/", ["root"]⟩)]
  files : List (Path × List UInt8) := []
  /-- Folders besides those that hold a file. -/
  folders : List Path := []
  pages : List (String × Page) := []
  client : Client := .plain

namespace World

/-- The home folder of a user; without a name, of the one who runs the program. -/
def home? (w : World) (user : String) : Option Path :=
  if user.isEmpty then some w.home else w.homes.lookup user

inductive Place where
  | file (bytes : List UInt8)
  /-- A folder by its shortest path. -/
  | folder (path : Path)

def isFolder (w : World) (p : Path) : Bool :=
  p.parts.isEmpty || w.folders.contains p || w.files.any fun (file, _) => file.isBelow p

/-- The name of a file or folder has at most so many bytes. -/
def longestName : Nat := 255

def longestPath : Nat := 4095

/-- What lies at the given parts from a folder around the present one on; nothing is known there
but more such folders. -/
def walkAround (folder : Path) (parts : List String) : Except FileError Place :=
  if parts.all (· == "..") then .ok (.folder { folder with parts := folder.parts ++ parts })
  else .error .missing

/-- What lies at the given parts from a folder on. -/
def walk (w : World) (folder : Path) : List String → Except FileError Place
  | [] => .ok (.folder folder)
  | part :: rest =>
    if part == ".." then
      if folder.parts.isEmpty && !folder.isAbsolute then walkAround folder (part :: rest)
      else w.walk folder.parent rest
    else if longestName < part.utf8ByteSize then .error .nameTooLong
    else
      let here := folder.child part
      if w.isFolder here then w.walk here rest
      else
        match w.files.lookup here with
        | some bytes => if rest.isEmpty then .ok (.file bytes) else .error .notDirectory
        | none => .error .missing

/-- What lies at a path. A path that is known as it is written is not walked. -/
def look (w : World) (p : Path) : Except FileError Place :=
  if longestPath < p.text.utf8ByteSize then .error .nameTooLong
  else
    match w.files.lookup p.plain with
    | some bytes => .ok (.file bytes)
    | none => w.walk { p.plain with parts := [] } p.parts

/-- The bytes of a file. -/
def bytes (w : World) (p : Path) : Except FileError (List UInt8) :=
  match w.look p with
  | .ok (.file bytes) => .ok bytes
  | .ok (.folder _) => .error .isDirectory
  | .error e => .error e

/-- The files and folders of a folder, by name. -/
def children (w : World) (folder : Path) : List String :=
  match w.look folder with
  | .ok (.folder here) =>
    let paths := w.files.map (·.1) ++ w.folders
    ((paths.filterMap (·.nameIn? here)).mergeSort (· ≤ ·)).eraseDups
  | _ => []

/-- No path holds the character zero. -/
def isUsable (p : Path) : Bool := p.parts.all fun part => !part.contains (Char.ofNat 0)

/-- The text of a document with line feeds as line ends; why it cannot be had is told apart from
bytes that are no text. -/
def document (w : World) (p : Path) : Run (Except FileError String) := do
  if !isUsable p then throw .badPath
  match w.bytes p with
  | .error e => return .error e
  | .ok bytes =>
    match Utf8.decode? bytes with
    | some text => return .ok (Line.normalize text)
    | none => throw .undecodable

/-- The text of a page, or what is said where there is none to be had. -/
def fetch (w : World) (url : String) : Except String String :=
  match w.pages.lookup url with
  | none => .error w.client.silence
  | some page =>
    match w.client.refusal? page url with
    | some reason => .error reason
    | none => .ok page.text

end World

end BuildLog
