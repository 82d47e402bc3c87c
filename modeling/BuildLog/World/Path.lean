import BuildLog.Text.Search

/-! Paths of files. Single points and repeated slashes mean nothing. -/
namespace BuildLog

structure Path where
  /-- The slashes with which a path from the root begins, empty for other paths. -/
  root : String
  parts : List String
deriving DecidableEq

namespace Path

open Text

/-- Two slashes are kept; more of them count as one. -/
def rootOf (text : String) : String :=
  match text.toList.takeWhile (· == '/') with
  | [] => ""
  | [_, _] => "//"
  | _ => "/"

def read (text : String) : Path where
  root := rootOf text
  parts := (pieces '/' text).filter fun part => !part.isEmpty && part != "."

def text (p : Path) : String :=
  if p.root.isEmpty && p.parts.isEmpty then "." else p.root ++ joined "/" p.parts

def isAbsolute (p : Path) : Bool := !p.root.isEmpty

/-- The same place with at most one slash in front. -/
def plain (p : Path) : Path := { p with root := if p.isAbsolute then "/" else "" }

/-- A path seen from a folder. -/
def inside (folder p : Path) : Path :=
  if p.isAbsolute then p else { folder with parts := folder.parts ++ p.parts }

def parent (p : Path) : Path := { p with parts := p.parts.dropLast }

/-- The folders on the way to a path, and the path. -/
def lineage (p : Path) : List Path :=
  (List.range p.parts.length).map fun n => { p with parts := p.parts.take (n + 1) }

def child (p : Path) (name : String) : Path := { p with parts := p.parts ++ [name] }

/-- Whether a path leads into a folder and beyond. -/
def isBelow (p folder : Path) : Bool :=
  p.root == folder.root && folder.parts.isPrefixOf p.parts && p.parts != folder.parts

/-- The name by which a path leads into a folder. -/
def nameIn? (p folder : Path) : Option String :=
  if p.isBelow folder then p.parts[folder.parts.length]? else none

def name (p : Path) : String := p.parts.getLast?.getD ""

/-- A tilde in front, and the name behind it, stand for the home folder of a user. -/
def expandHome? (home? : String → Option Path) (p : Path) : Option Path :=
  match p.isAbsolute, p.parts with
  | false, first :: rest =>
    match dropStart? ['~'] first.toList with
    | some user =>
      (home? (String.ofList user)).map fun home => { home with parts := home.parts ++ rest }
    | none => some p
  | _, _ => some p

end BuildLog.Path
