import BuildLog.Text.Blank
import BuildLog.Text.Search

/-! Signs that a pattern may take very long on a long line: a repetition inside a repeated
group, two greedy gaps in one branch, and a run of characters other than a colon that has to
end at a colon. The signs are looked for in the text of the pattern. -/
namespace BuildLog.Pattern

open Text

def isParenthesis (c : Char) : Bool := c == '(' || c == ')'

/-- The text behind an opening parenthesis has a repetition in the innermost group, which is
repeated itself. -/
def repeatsRepetition (cs : List Char) : Bool :=
  let inner := cs.takeWhile (!isParenthesis ·)
  match cs.dropWhile (!isParenthesis ·) with
  | ')' :: c :: _ =>
    inner.any (fun d => d == '+' || d == '*') && (c == '+' || c == '*' || c == '\x7b')
  | _ => false

def nestedRepetition : List Char → Bool
  | [] => false
  | c :: rest => (c == '(' && repeatsRepetition rest) || nestedRepetition rest

def gap : List Char := ['.', '*']

def twoGaps : List Char → Bool
  | '.' :: '*' :: rest =>
    occursIn gap (rest.takeWhile fun c => c != '|' && c != ')') || twoGaps ('*' :: rest)
  | _ :: rest => twoGaps rest
  | [] => false

def opensColonRun : List Char → Bool
  | '[' :: '^' :: ':' :: ']' :: c :: rest =>
    (c == '+' || c == '*') && (trimStart rest).head? == some ':'
  | _ => false

def colonRun : List Char → Bool
  | [] => false
  | c :: rest => opensColonRun (c :: rest) || colonRun rest

def isRisky (source : String) : Bool :=
  let cs := source.toList
  nestedRepetition cs || twoGaps cs || colonRun cs

end BuildLog.Pattern
