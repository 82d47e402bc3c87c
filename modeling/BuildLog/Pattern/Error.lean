import BuildLog.Text.Quoted

/-! What is wrong with the text of a pattern, and how it is said. -/
namespace BuildLog.Pattern

inductive Reason where
  | danglingBackslash
  | badEscape (escape : String)
  | incompleteEscape (escape : String)
  | octalTooGreat (escape : String)
  | missing (what : String)
  | unterminatedName (terminator : Char)
  | unknownCharacterName (name : String)
  | openGroup
  | groupInsideLookBehind
  | noSuchGroup (index : Int)
  | unterminatedSet
  | badRange (low high : String)
  | leastAboveMost
  | nothingToRepeat
  | repeatedTwice
  | unexpectedEnd
  | badGroupName (name : String)
  | unknownGroupName (name : String)
  | groupNameTwice (name : String) (index earlier : Nat)
  | badGroupNumber
  | unknownExtension (text : String)
  | unterminatedComment
  | unterminatedGroup
  | thirdBranch
  | lateGlobalFlags
  | unknownFlag
  | localeFlag
  | clashingFlags
  | turnOnGlobalFlag
  | turnOffAlphabetFlag
  | turnOffGlobalFlag
  | flagOnAndOff
  | unbalanced
  | lookBehindLength
  | lookBehindTooFar
  | templateRepeat (operator : String)
deriving DecidableEq

def Reason.message : Reason → String
  | .danglingBackslash => "bad escape (end of pattern)"
  | .badEscape escape => "bad escape " ++ escape
  | .incompleteEscape escape => "incomplete escape " ++ escape
  | .octalTooGreat escape => "octal escape value " ++ escape ++ " outside of range 0-0o377"
  | .missing what => "missing " ++ what
  | .unterminatedName terminator => s!"missing {terminator}, unterminated name"
  | .unknownCharacterName name => "undefined character name " ++ Text.quoted name
  | .openGroup => "cannot refer to an open group"
  | .groupInsideLookBehind =>
    "cannot refer to group defined in the same lookbehind subpattern"
  | .noSuchGroup index => s!"invalid group reference {index}"
  | .unterminatedSet => "unterminated character set"
  | .badRange low high => "bad character range " ++ low ++ "-" ++ high
  | .leastAboveMost => "min repeat greater than max repeat"
  | .nothingToRepeat => "nothing to repeat"
  | .repeatedTwice => "multiple repeat"
  | .unexpectedEnd => "unexpected end of pattern"
  | .badGroupName name => "bad character in group name " ++ Text.quoted name
  | .unknownGroupName name => "unknown group name " ++ Text.quoted name
  | .groupNameTwice name index earlier =>
    "redefinition of group name " ++ Text.quoted name ++
      s!" as group {index}; was group {earlier}"
  | .badGroupNumber => "bad group number"
  | .unknownExtension text => "unknown extension ?" ++ text
  | .unterminatedComment => "missing ), unterminated comment"
  | .unterminatedGroup => "missing ), unterminated subpattern"
  | .thirdBranch => "conditional backref with more than two branches"
  | .lateGlobalFlags => "global flags not at the start of the expression"
  | .unknownFlag => "unknown flag"
  | .localeFlag => "bad inline flags: cannot use 'L' flag with a str pattern"
  | .clashingFlags => "bad inline flags: flags 'a', 'u' and 'L' are incompatible"
  | .turnOnGlobalFlag => "bad inline flags: cannot turn on global flag"
  | .turnOffAlphabetFlag => "bad inline flags: cannot turn off flags 'a', 'u' and 'L'"
  | .turnOffGlobalFlag => "bad inline flags: cannot turn off global flag"
  | .flagOnAndOff => "bad inline flags: flag turned on and off"
  | .unbalanced => "unbalanced parenthesis"
  | .lookBehindLength => "look-behind requires fixed-width pattern"
  | .lookBehindTooFar => "looks too much behind"
  | .templateRepeat operator => "internal: unsupported template operator " ++ operator

/-- A place in a text by character, line and column. -/
structure Place where
  position : Nat
  line : Nat
  column : Nat
deriving DecidableEq

def Place.of (text : List Char) (position : Nat) : Place :=
  let before := text.take position
  ⟨position, before.count '\n' + 1, (before.reverse.takeWhile (· != '\n')).length + 1⟩

/-- A fault in a pattern. Faults of the whole have no place. -/
structure Fault where
  reason : Reason
  place : Option Place
  /-- The pattern has several lines. -/
  multiline : Bool
deriving DecidableEq

def Fault.message (f : Fault) : String :=
  match f.place with
  | none => f.reason.message
  | some place =>
    let text := f.reason.message ++ s!" at position {place.position}"
    if f.multiline then text ++ s!" (line {place.line}, column {place.column})" else text

/-- Why a text is not read as a pattern. -/
inductive Error where
  | fault (f : Fault)
  /-- A repetition count beyond the greatest. -/
  | countTooGreat
  /-- A repetition count of more digits than a number may have. -/
  | tooManyDigits
  /-- Both alphabet flags for the whole pattern. -/
  | alphabetClash
  /-- Groups nested deeper than the host bears. -/
  | tooDeep
deriving DecidableEq

end BuildLog.Pattern
