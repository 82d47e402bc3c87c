/-! Reading bytes as UTF-8. A byte sequence that breaks off or goes wrong is damage; what goes
wrong in it is read anew. -/
namespace BuildLog.Text.Utf8

/-- A character of which some bytes have been read: its bits so far, how many bytes are missing,
and the range of the next one. -/
structure Partial where
  bits : Nat
  missing : Nat
  low : Nat := 0x80
  high : Nat := 0xBF

/-- The first byte of a longer sequence. Some second bytes are shut out, because they would make
the sequence too long, a surrogate or too great. -/
def begin? (b : Nat) : Option Partial :=
  if 0xC2 ≤ b && b ≤ 0xDF then some ⟨b - 0xC0, 1, 0x80, 0xBF⟩
  else if b == 0xE0 then some ⟨0, 2, 0xA0, 0xBF⟩
  else if b == 0xED then some ⟨0xD, 2, 0x80, 0x9F⟩
  else if 0xE1 ≤ b && b ≤ 0xEF then some ⟨b - 0xE0, 2, 0x80, 0xBF⟩
  else if b == 0xF0 then some ⟨0, 3, 0x90, 0xBF⟩
  else if 0xF1 ≤ b && b ≤ 0xF3 then some ⟨b - 0xF0, 3, 0x80, 0xBF⟩
  else if b == 0xF4 then some ⟨4, 3, 0x80, 0x8F⟩
  else none

/-- What a byte at the beginning of a sequence gives: characters, and what it begins. -/
def start (b : Nat) : List (Option Char) × Option Partial :=
  if b < 0x80 then ([some (Char.ofNat b)], none)
  else
    match begin? b with
    | some p => ([], some p)
    | none => ([none], none)

def step (open? : Option Partial) (b : Nat) : List (Option Char) × Option Partial :=
  match open? with
  | none => start b
  | some p =>
    if p.low ≤ b && b ≤ p.high then
      let bits := 64 * p.bits + (b - 0x80)
      if p.missing ≤ 1 then ([some (Char.ofNat bits)], none)
      else ([], some { bits, missing := p.missing - 1 })
    else
      let (found, next) := start b
      (none :: found, next)

/-- What is left of a sequence that breaks off at the end. -/
def unfinished (open? : Option Partial) : List (Option Char) := if open?.isSome then [none] else []

/-- The characters, with `none` for damage. -/
def charsFrom (open? : Option Partial) : List UInt8 → List (Option Char)
  | [] => unfinished open?
  | b :: rest =>
    let (found, next) := step open? b.toNat
    found ++ charsFrom next rest

/-- Damage is shown by the replacement character. -/
def shown (chars : List (Option Char)) : List Char := chars.map (·.getD (Char.ofNat 0xFFFD))

/-- The text with its damage shown. -/
def decode (bytes : List UInt8) : String := String.ofList (shown (charsFrom none bytes))

/-- The text, if nothing is damaged. -/
def decode? (bytes : List UInt8) : Option String :=
  ((charsFrom none bytes).mapM id).map String.ofList

end BuildLog.Text.Utf8
