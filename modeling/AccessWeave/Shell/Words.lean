import AccessWeave.Shell.Source

/-!
Reading the words of a script and the bodies of its documents. Quotations, braces around
parameters and arithmetic can stand in each other; each opens a frame, and what is read goes to
the innermost one. A word ends at a blank or an operator outside all of them.

The commands inside a word are read by a reader that is given.
-/

namespace AccessWeave.Shell

inductive Quotation
  | unquoted
  | double
  | single
  | arithmetic
  deriving DecidableEq, Repr

inductive Opener
  | start
  /-- Braces around a parameter and its use, inside double quotation marks or not. -/
  | brace (name : String) (use : Use) (emptyCounts isDoubled : Bool)
  | arithmetic
  deriving DecidableEq, Repr

structure Frame where
  opener : Opener
  quotation : Quotation
  /-- Whether backslashes keep their meaning in front of few characters only. -/
  isDoubled : Bool
  /-- Whether a quotation has begun inside the braces. -/
  isInner : Bool
  depth : Nat
  pieces : List Piece

inductive Purpose
  | word
  /-- The word that ends a document, in which a dollar sign means itself. -/
  | delimiter
  | document (awaited : Awaited)
  deriving DecidableEq, Repr

structure Reading where
  purpose : Purpose
  frame : Frame
  outer : List Frame
  isQuoted : Bool

namespace Frame

def opened (opener : Opener) (quotation : Quotation) : Frame :=
  ⟨opener, quotation, quotation ≠ .unquoted, false, 0, []⟩

def isBrace (frame : Frame) : Bool :=
  match frame.opener with
  | .brace _ _ _ _ => true
  | _ => false

def staysQuoted (frame : Frame) : Bool :=
  match frame.opener with
  | .brace _ _ _ isDoubled => isDoubled
  | _ => false

def piece (frame : Frame) : Piece :=
  match frame.opener with
  | .brace name use emptyCounts _ => .parameter name use emptyCounts frame.pieces.reverse
  | _ => .arithmetic frame.pieces.reverse

end Frame

namespace Reading

def start (purpose : Purpose) : Reading :=
  match purpose with
  | .document awaited =>
      ⟨purpose, .opened .start (if awaited.isFilled then .double else .single), [], false⟩
  | _ => ⟨purpose, .opened .start .unquoted, [], false⟩

def isDocument (reading : Reading) : Bool :=
  match reading.purpose with
  | .document _ => true
  | _ => false

def isDelimiter (reading : Reading) : Bool := reading.purpose = .delimiter

def add (reading : Reading) (piece : Piece) : Reading :=
  { reading with frame := { reading.frame with pieces := piece :: reading.frame.pieces } }

def addCharacter (reading : Reading) (character : Char) : Reading :=
  match reading.frame.quotation with
  | .double => reading.add (.quoted character)
  | .single => reading.add (.quoted character)
  | _ => reading.add (.plain character)

/-- Adds a quotation mark. The marks in documents only group. -/
def addMark (reading : Reading) : Reading :=
  if reading.isDocument then reading else reading.add .mark

def push (reading : Reading) (frame : Frame) : Reading :=
  { reading with frame, outer := reading.frame :: reading.outer }

def pop (reading : Reading) : Reading :=
  match reading.outer with
  | [] => reading
  | parent :: outer => ({ reading with frame := parent, outer }).add reading.frame.piece

def quote (reading : Reading) (quotation : Quotation) : Reading :=
  { reading with frame := { reading.frame with quotation } }

/-- Notes a double quotation mark. Inside braces it begins or ends a quotation of its own. -/
def toggle (reading : Reading) : Reading :=
  let inner := if reading.frame.isBrace then !reading.frame.isInner else reading.frame.isInner
  ({ reading with frame := { reading.frame with isInner := inner } }).addMark

def openDouble (reading : Reading) : Reading :=
  { reading with frame := { reading.frame with quotation := .double, isDoubled := true } }.toggle

def closeQuotation (reading : Reading) (mark : Char) : Reading :=
  if reading.isDocument && !reading.frame.isBrace then reading.addCharacter mark
  else
    let frame :=
      if reading.frame.staysQuoted then reading.frame
      else { reading.frame with quotation := .unquoted, isDoubled := false }
    let closed := { reading with frame, isQuoted := true }
    if mark = '"' then closed.toggle else closed.addMark

def keepsBackslash (reading : Reading) (character : Char) : Bool :=
  let isBrace := reading.frame.isBrace
  reading.frame.isDoubled && character ∉ ['\\', '\x60', '$']
    && (character ≠ '"' || (reading.isDocument && !isBrace)) && (character ≠ '\x7d' || !isBrace)

def escape (reading : Reading) (character : Option Char) : Reading :=
  match character with
  | none => reading.add (.quoted '\\')
  | some character =>
      let kept :=
        if reading.keepsBackslash character then reading.add (.quoted '\\') else reading
      { kept.add (.quoted character) with isQuoted := true }

def closeBrace (reading : Reading) : Reading :=
  if reading.frame.isBrace && !reading.frame.isInner then reading.pop
  else reading.addCharacter '\x7d'

def deepen (reading : Reading) : Reading :=
  ({ reading with frame := { reading.frame with depth := reading.frame.depth + 1 } }).addCharacter
    '('

/-- The pieces that have been read, if everything that was opened is closed. -/
def finish (reading : Reading) : Reader (Word × Bool) := do
  if reading.frame.quotation = .arithmetic then Reader.fail "Missing '))'"
  else if reading.frame.quotation ≠ .unquoted && !reading.isDocument then
    Reader.fail "Unterminated quoted string"
  else if reading.frame.isBrace then Reader.fail "Missing '\x7d'"
  else return (reading.frame.pieces.reverse, reading.isQuoted)

end Reading

def useOfSign? : Char → Option Use
  | '\x7d' => some .value
  | '-' => some .orWord
  | '+' => some .wordInstead
  | '?' => some .orComplain
  | '=' => some .orAssign
  | _ => none

/-- Reads the sign after a parameter in braces: the use, whether empty texts count as none, and
whether the braces are closed already. After a colon a brace is no end, and a word follows. -/
def readUse : Reader (Use × Bool × Bool) := do
  let sign ← Reader.nextJoined
  match sign with
  | some '%' =>
      let longest ← Reader.accept '%'
      return (.trimmed ⟨false, longest⟩, false, false)
  | some '#' =>
      let longest ← Reader.accept '#'
      return (.trimmed ⟨true, longest⟩, false, false)
  | some ':' =>
      let use := ((← Reader.nextJoined).bind useOfSign?).getD .malformed
      return (use, true, false)
  | other =>
      let use := (other.bind useOfSign?).getD .malformed
      return (use, false, use = .value)

def readPlainName : Reader String := do
  match ← Reader.peekJoined with
  | some first =>
      if first.isDigit then return String.ofList (← Reader.takeWhile Char.isDigit)
      return String.ofList (← Reader.takeWhile isNameLetter)
  | none => return ""

def beginsName (character : Option Char) : Bool :=
  match character with
  | some character => isNameLetter character
  | none => false

/-- A name in braces, its use, whether empty texts count as none, and whether the braces are
closed already. -/
abbrev BraceHead := String × Use × Bool × Bool

/-- Reads what follows a number sign at the start of braces: the parameter that counts the
others, or the length of another parameter. -/
def readAfterNumberSign : Reader BraceHead := do
  let first ← Reader.peekJoined
  if beginsName first then
    let name ← readPlainName
    let isLength := (← Reader.peekJoined) = some '\x7d'
    return (name, if isLength then .length else .malformed, false, false)
  match first with
  | some special =>
      if special ≠ '\x7d' then
        let before ← get
        Reader.drop 1
        if (← Reader.peekJoined) = some '\x7d' then
          return (String.singleton special,
            if isSpecialParameter special then .length else .malformed, false, false)
        set before
      let (use, emptyCounts, isClosed) ← readUse
      return ("#", use, emptyCounts, isClosed)
  | none =>
      let (use, emptyCounts, isClosed) ← readUse
      return ("#", use, emptyCounts, isClosed)

def readBraceHead : Reader BraceHead := do
  let first ← Reader.peekJoined
  if beginsName first then
    let name ← readPlainName
    let (use, emptyCounts, isClosed) ← readUse
    return (name, use, emptyCounts, isClosed)
  match first with
  | some '\x7d' => return ("", .malformed, false, false)
  | some '#' =>
      Reader.drop 1
      readAfterNumberSign
  | some special =>
      Reader.drop 1
      if isSpecialParameter special then
        let (use, emptyCounts, isClosed) ← readUse
        return (String.singleton special, use, emptyCounts, isClosed)
      return (String.singleton special, .malformed, false, false)
  | none => return ("", .malformed, false, false)

namespace Reading

def openBrace (reading : Reading) : Reader Reading := do
  let (name, use, emptyCounts, isClosed) ← readBraceHead
  if isClosed then return reading.add (.parameter name use emptyCounts [])
  let isTrimmed := match use with
    | .trimmed _ => true
    | _ => false
  let quotation := match reading.frame.quotation with
    | .arithmetic => Quotation.double
    | other => other
  let inside := if isTrimmed then .unquoted else quotation
  return reading.push
    (.opened (.brace name use emptyCounts (inside ≠ .unquoted)) inside)

/-- Reads commands in parentheses. Documents that they await have no bodies. -/
def readCommands (nested : Reader (Option Command)) : Reader Piece := do
  let outer := (← get).awaited
  modify fun source => { source with awaited := [] }
  let body ← nested
  modify fun source =>
    { source with
      awaited := outer
      documents := source.awaited.map (fun awaited => (awaited.number, [])) ++ source.documents }
  return .substitution body

/-- The text between backquotes, in which a backslash goes away in front of few characters. -/
def backquoted (isDoubled : Bool) : Nat → Reader (List Char)
  | 0 => Reader.fail "EOF in backquote substitution"
  | steps + 1 => do
      match ← Reader.nextJoined with
      | none => Reader.fail "EOF in backquote substitution"
      | some '\x60' => return []
      | some '\\' =>
          match ← Reader.next with
          | none => Reader.fail "EOF in backquote substitution"
          | some character =>
              let isTaken := character ∈ ['\\', '\x60', '$'] || (isDoubled && character = '"')
              let others ← backquoted isDoubled steps
              return if isTaken then character :: others else '\\' :: character :: others
      | some character =>
          if character = '\n' then Reader.nextLine
          return character :: (← backquoted isDoubled steps)

/-- Reads commands between backquotes, as a script of their own. What stands after the commands
there is passed over. -/
def readBackquoted (isDoubled : Bool) (nested : Reader (Option Command)) : Reader Piece := do
  let text ← backquoted isDoubled (← Reader.steps)
  let outer ← get
  set { outer with rest := text, line := 1, openAliases := [] }
  let piece ← readCommands nested
  modify fun source =>
    { source with
      rest := outer.rest, line := outer.line, held := none, openAliases := outer.openAliases }
  return piece

def inParentheses (nested : Reader (Option Command)) : Reader (Option Command) := do
  let body ← nested
  let token := ((← get).held).getD .endOfFile
  if token.isOperator ")" then
    modify fun source => { source with held := none }
    return body
  else Reader.unexpected token (some (.operator ")"))

def readDollar (nested : Reader (Option Command)) (reading : Reading) : Reader Reading := do
  match ← Reader.peekJoined with
  | some '(' =>
      Reader.drop 1
      if ← Reader.accept '(' then
        return reading.push (.opened .arithmetic .arithmetic)
      return reading.add (← readCommands (inParentheses nested))
  | some '\x7b' =>
      Reader.drop 1
      reading.openBrace
  | some first =>
      if isNameStart first then
        return reading.add (.parameter (← readPlainName) .value false [])
      else if isSpecialParameter first then
        Reader.drop 1
        return reading.add (.parameter (String.singleton first) .value false [])
      return reading.addCharacter '$'
  | none => return reading.addCharacter '$'

def stepSingle (reading : Reading) (character : Char) : Reader Reading := do
  if character = '\'' then return reading.closeQuotation character
  if character = '\n' then Reader.nextLine
  return reading.addCharacter character

/-- Reads a character that means the same in all quotations but the single one. -/
def stepSpecial (nested : Reader (Option Command)) (reading : Reading) (character : Char) :
    Reader Reading := do
  match character with
  | '\\' => return reading.escape (← Reader.next)
  | '\x60' =>
      if reading.isDelimiter then return reading.addCharacter character
      return reading.add (← readBackquoted reading.frame.isDoubled nested)
  | '$' =>
      if reading.isDelimiter then return reading.addCharacter character
      readDollar nested reading
  | '\x7d' => return reading.closeBrace
  | '\n' =>
      Reader.nextLine
      return reading.addCharacter character
  | _ => return reading.addCharacter character

def stepArithmetic (nested : Reader (Option Command)) (reading : Reading) (character : Char) :
    Reader Reading := do
  match character with
  | '(' => return reading.deepen
  | ')' =>
      if 0 < reading.frame.depth then
        let frame := { reading.frame with depth := reading.frame.depth - 1 }
        return { reading with frame }.addCharacter character
      if ← Reader.accept ')' then return reading.pop
      return reading.addCharacter character
  | _ => stepSpecial nested reading character

def step (nested : Reader (Option Command)) (reading : Reading) (character : Char) :
    Reader Reading :=
  match reading.frame.quotation with
  | .single => reading.stepSingle character
  | .arithmetic => reading.stepArithmetic nested character
  | .double =>
      if character = '"' then return reading.closeQuotation character
      else stepSpecial nested reading character
  | .unquoted =>
      if character = '\'' then return (reading.quote .single).addMark
      else if character = '"' then return reading.openDouble
      else stepSpecial nested reading character

def endsAt (reading : Reading) (character : Char) : Bool :=
  reading.frame.quotation = .unquoted && !reading.frame.isBrace
    && character ∈ ['\n', '<', '>', '(', ')', ';', '&', '|', ' ', '\t']

/-- What is left after the delimiter of a document, if it stands here on a line of its own. -/
def afterDelimiter? (delimiter rest : List Char) : Option (List Char) :=
  match delimiter.isPrefixOf? rest with
  | some [] => some []
  | some ('\n' :: after) => some after
  | _ => none

def endsDocument (reading : Reading) : Reader Bool := do
  match reading.purpose with
  | .document awaited =>
      if reading.frame.quotation ≠ .single then Reader.joinLines
      if awaited.stripsTabs then
        modify fun source => { source with rest := source.rest.dropWhile (· = '\t') }
      match afterDelimiter? awaited.delimiter (← get).rest with
      | none => return false
      | some after =>
          modify fun source => { source with rest := after, line := source.line + 1 }
          return true
  | _ => return false

def readOn (nested : Reader (Option Command)) (startsLine : Bool) :
    Nat → Reading → Reader Reading
  | 0, reading => return reading
  | steps + 1, reading => do
      if startsLine then
        if ← reading.endsDocument then return reading
      if reading.frame.quotation ≠ .single then Reader.joinLines
      match ← Reader.peek with
      | none => return reading
      | some character =>
          if reading.endsAt character then return reading
          Reader.drop 1
          let after ← reading.step nested character
          readOn nested (character = '\n') steps after

end Reading

def readPieces (nested : Reader (Option Command)) (purpose : Purpose) :
    Reader (Word × Bool) := do
  let reading := Reading.start purpose
  let after ← reading.readOn nested reading.isDocument (← Reader.steps)
  after.finish

end AccessWeave.Shell
