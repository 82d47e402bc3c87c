import BuildLog.Line
import BuildLog.Text.Utf8

/-! Lines of a file, read while its bytes come in. Of what has come, no more is kept than a
character that is not complete and the line that it belongs to. -/
namespace BuildLog.Line

open Text

/-- The line that is being read. -/
structure Cursor where
  /-- Its characters so far, last first. -/
  current : List Char := []
  /-- A carriage return has just ended the line before. A line feed next to it ends no other. -/
  afterReturn : Bool := false

namespace Cursor

/-- The line that a character ends, and the line that is being read behind it. -/
def next (s : Cursor) (c : Char) : Option (List Char) × Cursor :=
  if c == '\r' then (some s.current.reverse, { afterReturn := true })
  else if c == '\n' then
    if s.afterReturn then (none, { s with afterReturn := false })
    else (some s.current.reverse, {})
  else (none, { current := c :: s.current })

def nextAll (s : Cursor) : List Char → List (List Char) × Cursor
  | [] => ([], s)
  | c :: rest =>
    let (line?, s) := s.next c
    let (lines, s) := s.nextAll rest
    (line?.toList ++ lines, s)

/-- What has come of a line when nothing more comes. -/
def last (s : Cursor) : List (List Char) := if s.current.isEmpty then [] else [s.current.reverse]

/-- The lines that end in the bytes to come; `open?` is a character that is not complete. -/
def linesFrom (s : Cursor) (open? : Option Utf8.Partial) : List UInt8 → List (List Char)
  | [] =>
    let (lines, s) := s.nextAll (Utf8.shown (Utf8.unfinished open?))
    lines ++ s.last
  | b :: rest =>
    let (found, open?) := Utf8.step open? b.toNat
    let (lines, s) := s.nextAll (Utf8.shown found)
    lines ++ s.linesFrom open? rest

end Cursor

/-- The lines of a file under a limit. -/
def stream (limit : Int) (bytes : List UInt8) : List Line :=
  (Cursor.linesFrom {} none bytes).mapIdx fun i cs => capped (effectiveLimit limit) (i + 1) cs

end BuildLog.Line
