/-! Blank characters and the trimming of texts. Twenty-nine characters are blank: the ASCII
controls 9 to 13 and 28 to 31, the space, and the space and line separators of Unicode. -/
namespace BuildLog.Text

def isBlank (c : Char) : Bool :=
  let n := c.toNat
  (9 ≤ n && n ≤ 13) || (28 ≤ n && n ≤ 32) || n == 0x85 || n == 0xA0 || n == 0x1680 ||
    (0x2000 ≤ n && n ≤ 0x200A) || n == 0x2028 || n == 0x2029 || n == 0x202F || n == 0x205F ||
    n == 0x3000

def trimStart (cs : List Char) : List Char := cs.dropWhile isBlank

def trimEnd (cs : List Char) : List Char := (cs.reverse.dropWhile isBlank).reverse

def trim (cs : List Char) : List Char := trimEnd (trimStart cs)

/-- The text without blanks at its ends. -/
def stripped (s : String) : String := String.ofList (trim s.toList)

def strippedStart (s : String) : String := String.ofList (trimStart s.toList)

/-- A text of blanks only, the empty text included. -/
def isBlankText (s : String) : Bool := s.toList.all isBlank

end BuildLog.Text
