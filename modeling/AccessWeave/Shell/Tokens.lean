import AccessWeave.Shell.Words

/-!
The tokens of a script: words, the signs between them, and the ends of lines. What a plain word
is depends on where it stands, so whoever reads a token tells what is expected there: a word can
be one that means something in front of a command, or an alias, and line ends may be passed over.
-/

namespace AccessWeave.Shell

structure Expectation where
  /-- Whether line ends are passed over. -/
  newlines : Bool
  keywords : Bool
  aliases : Bool
  deriving DecidableEq, Repr

namespace Expectation

def nothing : Expectation := ⟨false, false, false⟩

def command : Expectation := ⟨false, true, true⟩

def laterCommand : Expectation := ⟨true, true, true⟩

end Expectation

def readRedirectionSign (channel : Option Nat) : Reader RedirectionSign := do
  if (← Reader.next) = some '>' then
    let channel := channel.getD 1
    if ← Reader.accept '>' then return .file channel .append
    if ← Reader.accept '|' then return .file channel .overwrite
    if ← Reader.accept '&' then return .copy channel
    return .file channel .write
  let channel := channel.getD 0
  if ← Reader.accept '<' then return .document channel (← Reader.accept '-')
  if ← Reader.accept '&' then return .copy channel
  if ← Reader.accept '>' then return .file channel .readWrite
  return .file channel .read

/-- The channel that a word in front of the sign of a redirection tells, if it can be one. -/
def channelBefore? : Word → Option (Option Nat)
  | [] => some none
  | [.plain digit] => if digit.isDigit then some (some (digit.toNat - '0'.toNat)) else none
  | _ => none

def wordToken (word : Word) (isQuoted : Bool) : Reader Token := do
  modify fun source => { source with lastWord := word }
  return .word word isQuoted

def readWordToken (nested : Reader (Option Command)) (purpose : Purpose) : Reader Token := do
  let (word, isQuoted) ← readPieces nested purpose
  let follower ← Reader.peek
  if (follower = some '<' ∨ follower = some '>') ∧ isQuoted = false then
    match channelBefore? word with
    | some channel => return .redirection (← readRedirectionSign channel)
    | none => wordToken word isQuoted
  else wordToken word isQuoted

def readDoubled (character : Char) : Reader Token := do
  Reader.drop 1
  if ← Reader.accept character then
    return .operator (String.ofList [character, character])
  return .operator (String.singleton character)

def scanToken (nested : Reader (Option Command)) (purpose : Purpose) : Nat → Reader Token
  | 0 => return .endOfFile
  | steps + 1 => do
      match ← Reader.peekJoined with
      | none => return .endOfFile
      | some ' ' | some '\t' =>
          Reader.drop 1
          scanToken nested purpose steps
      | some '#' =>
          Reader.skipLine
          scanToken nested purpose steps
      | some '\n' =>
          Reader.drop 1
          Reader.nextLine
          return .newline
      | some '(' =>
          Reader.drop 1
          return .operator "("
      | some ')' =>
          Reader.drop 1
          return .operator ")"
      | some character =>
          if character ∈ ['&', '|', ';'] then readDoubled character
          else readWordToken nested purpose

def nextToken (nested : Reader (Option Command)) (purpose : Purpose) : Reader Token := do
  match (← get).held with
  | some token =>
      modify fun source => { source with held := none }
      return token
  | none => scanToken nested purpose (← Reader.steps)

def giveBack (token : Token) : Reader Unit :=
  modify fun source => { source with held := some token }

def readDocuments (nested : Reader (Option Command)) : Reader Unit := do
  let awaited := (← get).awaited
  modify fun source => { source with awaited := [] }
  awaited.forM fun document => do
    let (body, _) ← readPieces nested (.document document)
    modify fun source =>
      { source with documents := (document.number, body) :: source.documents, lastWord := body }

/-- The text that a word stands for. An alias is none while its own text is being read. -/
def aliasText? (word : String) : Reader (Option String) := do
  let source ← get
  let isOpen := source.openAliases.any fun opened =>
    opened.name = word && opened.left ≤ source.rest.length
  return if isOpen then none else source.aliases.lookup word

def isBlank (character : Char) : Bool := character = ' ' || character = '\t'

/-- Reads on in the text of an alias. Nothing divides it from what comes after it. -/
def openAlias (word value : String) : Reader Unit := modify fun source =>
  let left := source.rest.length
  let opened : OpenAlias := ⟨word, left, (value.toList.getLast?.map isBlank).getD false⟩
  if value = "" then source
  else { source with
    rest := value.toList ++ source.rest
    openAliases := opened :: source.openAliases.filter fun other => other.left ≤ left }

/-- Reads a token; whether that has used up the text of an alias that offers the next word. -/
def nextTokenNoting (nested : Reader (Option Command)) : Reader (Token × Bool) := do
  let before ← get
  let token ← nextToken nested .word
  let left := (← get).rest.length
  let isOffered := before.held.isNone && before.openAliases.any fun opened =>
    opened.endsInBlank && opened.isUsedUp before.rest.length left
  return (token, isOffered)

/-- Reads tokens up to one that is no line end to be passed over and no alias. -/
def readTokenWithin (nested : Reader (Option Command)) (expectation : Expectation) :
    Nat → Reader Token
  | 0 => return .endOfFile
  | steps + 1 => do
      let (token, isOffered) ← nextTokenNoting nested
      match token with
      | .newline =>
          if expectation.newlines then
            readDocuments nested
            readTokenWithin nested expectation steps
          else return token
      | .word word false =>
          match Word.plainText? word with
          | none => return token
          | some text =>
              if expectation.keywords && text ∈ keywords then return .keyword text
              if expectation.aliases || isOffered then
                match ← aliasText? text with
                | some value =>
                    openAlias text value
                    readTokenWithin nested { expectation with aliases := true } steps
                | none => return token
              else return token
      | _ => return token

def readToken (nested : Reader (Option Command)) (expectation : Expectation) : Reader Token := do
  readTokenWithin nested expectation (← Reader.steps)

end AccessWeave.Shell
