import BuildLog.Line

/-! A text read line by line. Each call gives the next line, without its terminator and cut to the
limit; the reader knows the number of the line and whether it was cut. -/
namespace BuildLog.Line

/-- The line that stands next in a text, its terminator included, and the text behind it; `taken`
holds the characters of the line so far, last first. -/
def nextRaw (taken : List Char) : List Char → List Char × List Char
  | [] => (taken.reverse, [])
  | '\r' :: '\n' :: rest => (('\n' :: '\r' :: taken).reverse, rest)
  | '\r' :: rest => (('\r' :: taken).reverse, rest)
  | '\n' :: rest => (('\n' :: taken).reverse, rest)
  | c :: rest => nextRaw (c :: taken) rest

def withoutEnding (raw : List Char) : List Char :=
  if ['\r', '\n'].isSuffixOf raw then raw.dropLast.dropLast
  else if ['\n'].isSuffixOf raw || ['\r'].isSuffixOf raw then raw.dropLast
  else raw

structure Reader where
  rest : List Char
  /-- The greatest length of a line. -/
  limit : Nat
  /-- The number of the line read last. -/
  number : Nat := 0
  /-- Whether the line read last was cut. -/
  isCut : Bool := false
  isExhausted : Bool := false

namespace Reader

def start (limit : Int) (content : String) : Reader where
  rest := content.toList
  limit := effectiveLimit limit

/-- The next line, if there is one. Once there was none there is none any more. -/
def next (r : Reader) : Option Line × Reader :=
  if r.isExhausted then (none, r)
  else
    let (raw, rest) := nextRaw [] r.rest
    if raw.isEmpty then (none, { r with isExhausted := true })
    else
      let line := capped r.limit (r.number + 1) (withoutEnding raw)
      (some line, { r with rest, number := line.number, isCut := line.isCut })

/-- The lines that so many calls give. -/
def deliver (r : Reader) : (calls : Nat) → List Line
  | 0 => []
  | calls + 1 =>
    let (line?, r) := r.next
    line?.toList ++ r.deliver calls

end Reader

end BuildLog.Line
