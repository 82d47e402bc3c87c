import BuildLog.Pattern.Escape
import BuildLog.Text.Identifiers

/-! Reading a pattern from its text. The reader keeps the groups that are open, innermost first,
and takes the symbols one by one. -/
namespace BuildLog.Pattern

variable [Host]

/-- How symbols are read and what they mean from here on. -/
structure Mode where
  ignoreCase : Bool := false
  multiline : Bool := false
  dotAll : Bool := false
  verbose : Bool := false
  ascii : Bool := false

def Mode.fold (m : Mode) : Fold :=
  if !m.ignoreCase then .exact else if m.ascii then .ascii else .unicode

/-- The least and the greatest number of characters that match, up to a common limit. -/
structure Width where
  least : Nat
  most : Nat
deriving DecidableEq

def widthLimit : Nat := Nat.pow 2 64

namespace Width

def capped (least most : Nat) : Width := ⟨least.min widthLimit, most.min widthLimit⟩

def zero : Width := ⟨0, 0⟩

def single : Width := ⟨1, 1⟩

def add (a b : Width) : Width := capped (a.least + b.least) (a.most + b.most)

def join (a b : Width) : Width := ⟨a.least.min b.least, a.most.max b.most⟩

def times (w : Width) (least : Nat) (most : Option Nat) : Width :=
  capped (w.least * least) (match most with
    | some n => w.most * n
    | none => if w.most == 0 then 0 else widthLimit)

end Width

/-- What a quantifier thinks of the item before it. -/
inductive Role where
  | anchor
  | repetition
  | item
deriving DecidableEq

structure Piece where
  node : Node
  width : Width
  role : Role := .item

/-- Pieces in a row, last first. -/
abbrev Row := List Piece

def Row.node (row : Row) : Node := Node.seq (row.reverse.map Piece.node)

def Row.width (row : Row) : Width := row.foldl (fun w p => w.add p.width) .zero

inductive GroupKind where
  | whole
  | plain
  | capture (index : Nat)
  | atomic
  | ahead (negated : Bool)
  /-- The number of groups that a look behind in this place may refer to before it was opened. -/
  | behind (negated : Bool) (outer : Option Nat) (deferred : Option Reason)
  | conditional (index : Nat)

/-- A group that is open: the place of its parenthesis, its mode, the branches that are complete
and the row being read. -/
structure Level where
  kind : GroupKind
  opening : Nat
  mode : Mode
  branches : List Row
  row : Row

structure State where
  level : Level
  outer : List Level
  /-- Widths of the groups from number one on; unknown while a group is open. -/
  widths : Array (Option Width)
  /-- Names with their groups, last first. -/
  names : List (String × Nat)
  /-- Inside of a look behind, the number of groups opened before it. -/
  behind : Option Nat
  /-- Groups that conditions ask about, with their places, last first. -/
  conditions : List (Nat × Nat)
  globals : List Char
  /-- A fault of the whole pattern, told only if no other is found. -/
  deferred : Option Reason

def State.start : State where
  level := { kind := .whole, opening := 0, mode := {}, branches := [], row := [] }
  outer := []
  widths := #[]
  names := []
  behind := none
  conditions := []
  globals := []
  deferred := none

namespace State

def mode (st : State) : Mode := st.level.mode

def push (st : State) (p : Piece) : State :=
  { st with level := { st.level with row := p :: st.level.row } }

def classPiece (st : State) (items : List Item) (negated : Bool) : Piece where
  node := .one { items := items, negated := negated, fold := st.mode.fold, ascii := st.mode.ascii }
  width := .single

def pushCode (st : State) (n : Nat) : State := st.push (st.classPiece [.one n] false)

def pushAnchor (st : State) (a : Anchor) : State := st.push ⟨.anchor a, .zero, .anchor⟩

def defer (st : State) (reason : Reason) : State :=
  { st with deferred := st.deferred <|> some reason }

/-- The width of a group that is complete. -/
def closed? (st : State) (index : Nat) : Option Width := (st.widths[index - 1]?).join

/-- Inside of a look behind only groups opened before it may be referred to. -/
def checkBehind (st : State) (index : Nat) : TokenScan Unit :=
  match st.behind with
  | none => pure ()
  | some count =>
    if (st.closed? index).isNone then stop .openGroup
    else if count < index then stop .groupInsideLookBehind
    else pure ()

/-- A reference to a group; `back` leads to the place told if the group is still open. -/
def reference (st : State) (index back : Nat) : TokenScan State :=
  match st.closed? index with
  | none => stop .openGroup back
  | some w => do
    st.checkBehind index
    return st.push ⟨.reference index st.mode.fold, w, .item⟩

def anchorEscape? (st : State) : Char → Option Anchor
  | 'A' => some .textStart
  | 'b' => some (.wordBoundary st.mode.ascii)
  | 'B' => some (.insideWord st.mode.ascii)
  | 'Z' => some .textEnd
  | _ => none

/-- A digit from one to nine behind a backslash: a group, or a code point in three octal digits. -/
def digitEscape (st : State) (c : Char) : TokenScan State := do
  let second := charsOf (← Scan.takeUpTo 1 (Token.isChar Char.isDigit))
  let third ←
    if isOctal c && !second.isEmpty && second.all isOctal then
      pure (charsOf (← Scan.takeUpTo 1 (Token.isChar isOctal)))
    else pure []
  let digits := c :: second
  if !third.isEmpty then return st.pushCode (← octalValue (digits ++ third))
  else
    let index := valueIn 10 digits
    if index ≤ st.widths.size then st.reference index (digits.length + 1)
    else stop (.noSuchGroup index) digits.length

def escape (st : State) (c : Char) : TokenScan State := do
  match categoryEscape? c, st.anchorEscape? c, controlEscape? c, codeEscape? c with
  | some item, _, _, _ => return st.push (st.classPiece [item] false)
  | _, some a, _, _ => return st.pushAnchor a
  | _, _, some n, _ => return st.pushCode n
  | _, _, _, some scan => return st.pushCode (← scan)
  | _, _, _, _ =>
    if c == '0' then
      let more := charsOf (← Scan.takeUpTo 2 (Token.isChar isOctal))
      return st.pushCode (valueIn 8 more)
    else if c.isDigit then st.digitEscape c
    else return st.pushCode (← plainEscape c)

end State

def greatestCount : Nat := 4294967295

/-- The digits of the least and the greatest count in braces, and the number of symbols. -/
def counts? (ts : List Token) : Option (List Char × List Char × Nat) :=
  let low := charsOf (ts.takeWhile (Token.isChar Char.isDigit))
  match ts.drop low.length with
  | .char ',' :: rest =>
    let high := charsOf (rest.takeWhile (Token.isChar Char.isDigit))
    if rest[high.length]? == some (.char '\x7d') then
      some (low, high, low.length + high.length + 2)
    else none
  | .char '\x7d' :: _ => some (low, low, low.length + 1)
  | _ => none

/-- A count, if there is one. -/
def count? (digits : List Char) : TokenScan (Option Nat) :=
  if digits.isEmpty then pure none
  else match Decimal.readDigits digits with
    | .error _ => stopWith .tooManyDigits
    | .ok n => if greatestCount ≤ n then stopWith .countTooGreat else pure (some n)

/-- The limits that a quantifier sets; `none` if the brace is an ordinary character. -/
def limits? (c : Char) : TokenScan (Option (Nat × Option Nat)) := do
  if c == '?' then return some (0, some 1)
  if c == '*' then return some (0, none)
  if c == '+' then return some (1, none)
  let rest ← Scan.rest
  if rest.head? == some (.char '\x7d') then return none
  match counts? rest with
  | none => return none
  | some (low, high, length) =>
    Scan.drop length
    let least ← count? low
    let most ← count? high
    let least := least.getD 0
    if (most.map fun n => decide (n < least)).getD false then
      stopAt .leastAboveMost (width rest)
    else return some (least, most)

/-- The sign behind a quantifier, if there is one. -/
def greedSign : TokenScan Greed := do
  if ← Scan.skip? (.char '?') then return .lazy
  else if ← Scan.skip? (.char '+') then return .possessive
  else return .greedy

def operatorName : Greed → String
  | .greedy => "MAX_REPEAT"
  | .lazy => "MIN_REPEAT"
  | .possessive => "POSSESSIVE_REPEAT"

def State.repeatLast (st : State) (c : Char) : TokenScan State := do
  let here := width (← Scan.rest)
  match ← limits? c with
  | none => return st.pushCode c.toNat
  | some (least, most) =>
    match st.level.row with
    | [] => stopAt .nothingToRepeat (here + 1)
    | p :: row =>
      match p.role with
      | .anchor => stopAt .nothingToRepeat (here + 1)
      | .repetition => stopAt .repeatedTwice (here + 1)
      | .item =>
        let greed ← greedSign
        let node := Node.repeated greed least most p.node
        let piece : Piece := ⟨node, p.width.times least most, .repetition⟩
        let st := { st with level := { st.level with row := piece :: row } }
        if st.globals.contains 't' then return st.defer (.templateRepeat (operatorName greed))
        else return st

def State.openGroup (st : State) (kind : GroupKind) (opening : Nat) (mode : Mode) :
    TokenScan State :=
  if Host.groupDepth ≤ st.outer.length then stopWith .tooDeep
  else pure { st with
    level := { kind := kind, opening := opening, mode := mode, branches := [], row := [] }
    outer := st.level :: st.outer }

def State.openCapture (st : State) (name : Option String) (opening : Nat) : TokenScan State := do
  let index := st.widths.size + 1
  let names ← match name with
    | none => pure st.names
    | some name =>
      match st.names.lookup name with
      | some earlier => stop (.groupNameTwice name index earlier) (name.length + 1)
      | none => pure ((name, index) :: st.names)
  let st := { st with widths := st.widths.push none, names := names }
  st.openGroup (.capture index) opening st.mode

def checkGroupName (name : String) : TokenScan Unit :=
  if Text.isIdentifier name.toList then pure ()
  else stop (.badGroupName name) (name.length + 1)

/-- A group with a name, or a reference by name. -/
def State.namedGroup (st : State) (opening : Nat) : TokenScan State := do
  if ← Scan.skip? (.char '<') then
    let name ← textUntil '>' "group name"
    checkGroupName name
    st.openCapture (some name) opening
  else if ← Scan.skip? (.char '=') then
    let name ← textUntil ')' "group name"
    checkGroupName name
    match st.names.lookup name with
    | none => stop (.unknownGroupName name) (name.length + 1)
    | some index => st.reference index (name.length + 1)
  else
    match ← Scan.next? with
    | none => stop .unexpectedEnd
    | some t => stop (.unknownExtension ("P" ++ t.text)) (t.width + 2)

def State.openBehind (st : State) (negated : Bool) (opening : Nat) : TokenScan State :=
  let kind := .behind negated st.behind st.deferred
  let inside := st.behind <|> some st.widths.size
  { st with behind := inside }.openGroup kind opening st.mode

def greatestGroup : Nat := 1073741823

def State.conditionIndex (st : State) (name : String) : TokenScan (State × Nat) := do
  let back := name.length + 1
  if Text.isIdentifier name.toList then
    match st.names.lookup name with
    | none => stop (.unknownGroupName name) back
    | some index => return (st, index)
  else
    match Decimal.wholeInt? name.toList with
    | some (.ofNat index) =>
      if index == 0 then stop .badGroupNumber back
      else if greatestGroup ≤ index then stop (.noSuchGroup index) back
      else
        let place := width (← Scan.rest) + back
        return ({ st with conditions := (index, place) :: st.conditions }, index)
    | _ => stop (.badGroupName name) back

def State.conditional (st : State) (opening : Nat) : TokenScan State := do
  let name ← textUntil ')' "group name"
  let (st, index) ← st.conditionIndex name
  st.checkBehind index
  st.openGroup (.conditional index) opening st.mode

def flagLetters : List Char := ['i', 'L', 'm', 's', 'x', 'a', 't', 'u']

def alphabetFlags : List Char := ['a', 'L', 'u']

def isFlag : Token → Option Char
  | .char c => if flagLetters.contains c then some c else none
  | .escape _ => none

/-- A symbol where a flag or one of the signs after flags is due. -/
def badFlag (t : Token) (due : String) : TokenScan α :=
  stop (if t.isChar Text.isLetter then .unknownFlag else .missing due) t.width

def turnOn (flags : List Char) (c : Char) : TokenScan (List Char) :=
  if c == 'L' then stop .localeFlag
  else if alphabetFlags.contains c && flags.any (fun f => alphabetFlags.contains f && f != c) then
    stop .clashingFlags
  else pure (c :: flags)

def turnOff (flags : List Char) (c : Char) : TokenScan (List Char) :=
  if alphabetFlags.contains c then stop .turnOffAlphabetFlag else pure (c :: flags)

/-- Flags after the first one up to a sign; the sign is part of the answer. -/
def flagsOn (flags : List Char) : TokenScan (List Char × Char) :=
  Scan.loop (fun flags t =>
    if t == .char ')' then pure (.inr (flags, ')'))
    else if t == .char '-' then pure (.inr (flags, '-'))
    else if t == .char ':' then pure (.inr (flags, ':'))
    else match isFlag t with
      | some c => return .inl (← turnOn flags c)
      | none => badFlag t "-, : or )") (fun _ => stop (.missing "-, : or )")) flags

/-- Flags to turn off, up to the colon. -/
def flagsOff : TokenScan (List Char) := do
  match ← Scan.next? with
  | none => stop (.missing "flag")
  | some t =>
    match isFlag t with
    | none => badFlag t "flag"
    | some c =>
      let flags ← turnOff [] c
      Scan.loop (fun flags t =>
        if t == .char ':' then pure (.inr flags)
        else match isFlag t with
          | some c => return .inl (← turnOff flags c)
          | none => badFlag t ":") (fun _ => stop (.missing ":")) flags

def Mode.with (m : Mode) (on off : List Char) : Mode where
  ignoreCase := (m.ignoreCase || on.contains 'i') && !off.contains 'i'
  multiline := (m.multiline || on.contains 'm') && !off.contains 'm'
  dotAll := (m.dotAll || on.contains 's') && !off.contains 's'
  verbose := (m.verbose || on.contains 'x') && !off.contains 'x'
  ascii := (m.ascii || on.contains 'a') && !on.contains 'u'

/-- Flags for the whole pattern stand at its beginning. -/
def State.globalFlags (st : State) (flags : List Char) (opening : Nat) : TokenScan State :=
  if st.outer.isEmpty && st.level.branches.isEmpty && st.level.row.isEmpty then
    let globals := flags ++ st.globals
    let mode := { st.mode.with flags [] with ascii := globals.contains 'a' }
    pure { st with level := { st.level with mode := mode }, globals := globals }
  else stopAt .lateGlobalFlags opening

def State.flagGroup (st : State) (first : Char) (opening : Nat) : TokenScan State := do
  let (on, sign) ←
    if first == '-' then pure ([], '-')
    else flagsOn (← turnOn [] first)
  if sign == ')' then st.globalFlags on opening
  else
    if on.contains 't' then stop .turnOnGlobalFlag 1
    let off ← if sign == '-' then flagsOff else pure []
    if off.contains 't' then stop .turnOffGlobalFlag 1
    if on.any off.contains then stop .flagOnAndOff 1
    st.openGroup .plain opening (st.mode.with on off)

/-- A comment is passed over, its closing parenthesis included. -/
def skipComment (opening : Nat) : TokenScan Unit := do
  let _ ← Scan.takeWhile fun t => t != .char ')'
  match ← Scan.next? with
  | none => stopAt .unterminatedComment opening
  | some _ => pure ()

/-- A group that begins with a question mark. -/
def State.extension (st : State) (opening : Nat) : TokenScan State := do
  match ← Scan.next? with
  | none => stop .unexpectedEnd
  | some (.escape c) => stop (.unknownExtension (Token.escape c).text) 3
  | some (.char c) =>
    if c == 'P' then st.namedGroup opening
    else if c == ':' then st.openGroup .plain opening st.mode
    else if c == '#' then do skipComment opening; return st
    else if c == '=' then st.openGroup (.ahead false) opening st.mode
    else if c == '!' then st.openGroup (.ahead true) opening st.mode
    else if c == '<' then
      match ← Scan.next? with
      | none => stop .unexpectedEnd
      | some t =>
        if t == .char '=' then st.openBehind false opening
        else if t == .char '!' then st.openBehind true opening
        else stop (.unknownExtension ("<" ++ t.text)) (t.width + 2)
    else if c == '(' then st.conditional opening
    else if c == '>' then st.openGroup .atomic opening st.mode
    else if flagLetters.contains c || c == '-' then st.flagGroup c opening
    else stop (.unknownExtension (String.ofList [c])) 2

def greatestBehind : Nat := 4294967295

def Level.rows (l : Level) : List Row := (l.row :: l.branches).reverse

def Level.node (l : Level) : Node := Node.choice (l.rows.map Row.node)

def Level.width (l : Level) : Width :=
  match l.rows.map Row.width with
  | [] => .zero
  | w :: rest => rest.foldl .join w

/-- The complete group as a piece of the row around it. -/
def Level.piece (l : Level) : Piece :=
  match l.kind with
  | .whole | .plain => ⟨l.node, l.width, .item⟩
  | .capture index => ⟨.group index l.node, l.width, .item⟩
  | .atomic => ⟨.atomic l.node, l.width, .item⟩
  | .ahead negated => ⟨.ahead negated l.node, .zero, .item⟩
  | .behind negated _ _ => ⟨.behind negated l.width.least l.node, .zero, .item⟩
  | .conditional index =>
    match l.rows with
    | [yes, no] => ⟨.ifGroup index yes.node no.node, yes.width.join no.width, .item⟩
    | rows =>
      let yes := rows.headD []
      ⟨.ifGroup index yes.node .empty, yes.width.join .zero, .item⟩

/-- What a look behind demands of its length. -/
def lengthFault? (w : Width) : Option Reason :=
  if greatestBehind < w.least then some .lookBehindTooFar
  else if w.least != w.most then some .lookBehindLength
  else none

/-- The state behind the closing parenthesis of the innermost group. -/
def State.close (st : State) (around : Level) (outer : List Level) : State :=
  let l := st.level
  let st := { st with level := around, outer := outer }
  let st := match l.kind with
    | .capture index => { st with widths := st.widths.setIfInBounds (index - 1) (some l.width) }
    | .behind _ behind deferred =>
      match lengthFault? l.width with
      | some reason => { st with behind := behind, deferred := deferred <|> some reason }
      | none => { st with behind := behind }
    | _ => st
  st.push l.piece

def State.branch (st : State) : TokenScan State :=
  match st.level.kind, st.level.branches with
  | .conditional _, _ :: _ => stopBefore .thirdBranch (.char '|')
  | _, _ =>
    pure { st with
      level := { st.level with branches := st.level.row :: st.level.branches, row := [] } }

def State.alphabetClash (st : State) : Bool :=
  st.globals.contains 'a' && st.globals.contains 'u'

def isLayout (c : Char) : Bool := c == ' ' || (9 ≤ c.toNat && c.toNat ≤ 13)

/-- One symbol outside of sets, and what belongs to it. -/
def State.step (st : State) : Token → TokenScan State
  | .escape c => st.escape c
  | .char c => do
    if st.mode.verbose && isLayout c then return st
    if st.mode.verbose && c == '#' then
      let _ ← Scan.takeWhile fun t => t != .char '\n'
      Scan.drop 1
      return st
    if c == '[' then
      let opening := width (← Scan.rest) + 1
      let (negated, items) ← setBody opening
      return st.push (st.classPiece items negated)
    if c == '*' || c == '+' || c == '?' || c == '\x7b' then
      return ← st.repeatLast c
    if c == '.' then
      return st.push (st.classPiece (if st.mode.dotAll then [] else [.one 10]) true)
    if c == '(' then
      let opening := width (← Scan.rest) + 1
      if ← Scan.skip? (.char '?') then return ← st.extension opening
      else return ← st.openCapture none opening
    if c == ')' then
      match st.outer with
      | [] =>
        if st.alphabetClash then stopWith .alphabetClash else stopBefore .unbalanced (.char ')')
      | around :: outer => return st.close around outer
    if c == '|' then return ← st.branch
    if c == '^' then
      return st.pushAnchor (if st.mode.multiline then .lineStart else .textStart)
    if c == '$' then
      return st.pushAnchor (if st.mode.multiline then .lineEnd else .lastLineEnd)
    return st.pushCode c.toNat

/-- All symbols taken: no group may be open, and all faults of the whole are told. -/
def State.finish (st : State) : TokenScan State :=
  match st.outer with
  | _ :: _ => stopAt .unterminatedGroup st.level.opening
  | [] =>
    if st.alphabetClash then stopWith .alphabetClash
    else match st.conditions.reverse.find? fun c => st.widths.size < c.1 with
      | some (index, place) => stopAt (.noSuchGroup index) place
      | none =>
        match st.deferred with
        | some reason => fun _ => .error (.fault reason none true)
        | none => pure st

def readTokens : TokenScan State :=
  Scan.loop (fun st t => do return .inl (← st.step t)) State.finish State.start

/-- The error of a stop. A backslash left over at the end of the text is told as soon as the
symbol before it is taken. -/
def Stop.toError (text : List Char) (dangling : Bool) (s : Stop) : Error :=
  let multiline := text.contains '\n'
  if dangling && s.atEnd then
    .fault ⟨.danglingBackslash, some (.of text (text.length - 1)), multiline⟩
  else match s with
    | .other e _ => e
    | .fault reason none _ => .fault ⟨reason, none, multiline⟩
    | .fault reason (some remaining) _ =>
      let length := if dangling then text.length - 1 else text.length
      .fault ⟨reason, some (.of text (length - remaining)), multiline⟩

/-- The pattern that a text describes. -/
def read (source : String) : Except Error Pattern :=
  let text := source.toList
  let (ts, dangling) := tokens text
  match readTokens ts with
  | .error s => .error (s.toError text dangling)
  | .ok (st, _) =>
    if dangling then .error (Stop.toError text true (.other .tooDeep true))
    else .ok {
      source := source
      root := st.level.node
      groups := st.widths.size
      names := st.names.reverse }

end BuildLog.Pattern
