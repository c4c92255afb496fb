import AccessWeave.Shell.Grammar

/-!
A script while it is being read: the characters that are left, the line that they are on, and
what has been read but not used yet. Reading fails with a complaint and the line it is about.

A text that stands in the script as a document begins on the line after the one that asks for
it. Until that line is reached the document is awaited; its body is kept under the number by
which the command knows it.
-/

namespace AccessWeave.Shell

structure SyntaxFault where
  line : Nat
  complaint : String
  deriving DecidableEq, Repr

def SyntaxFault.message (fault : SyntaxFault) : String := "Syntax error: " ++ fault.complaint

inductive RedirectionSign
  | file (channel : Nat) (opening : Opening)
  | copy (channel : Nat)
  | document (channel : Nat) (stripsTabs : Bool)
  deriving DecidableEq, Repr

inductive Token
  | word (word : Word) (isQuoted : Bool)
  | keyword (text : String)
  | operator (text : String)
  | newline
  | endOfFile
  | redirection (sign : RedirectionSign)

namespace Token

def name : Token → String
  | word _ _ => "word"
  | keyword text => "\"" ++ text ++ "\""
  | operator text => "\"" ++ text ++ "\""
  | newline => "newline"
  | endOfFile => "end of file"
  | redirection _ => "redirection"

def isKeyword (token : Token) (text : String) : Bool :=
  match token with
  | keyword found => found = text
  | _ => false

def isOperator (token : Token) (text : String) : Bool :=
  match token with
  | operator found => found = text
  | _ => false

def isNewline : Token → Bool
  | newline => true
  | _ => false

def endsCommands : Token → Bool
  | endOfFile => true
  | operator text => text ∈ [")", ";;"]
  | keyword text =>
      text ∈ ["do", "done", "elif", "else", "esac", "fi", "then", "\x7d"]
  | _ => false

end Token

def keywords : List String :=
  ["!", "case", "do", "done", "elif", "else", "esac", "fi", "for", "if", "in", "then", "until",
   "while", "\x7b", "\x7d"]

/-- A document whose body is still to come. -/
structure Awaited where
  number : Nat
  delimiter : List Char
  isFilled : Bool
  stripsTabs : Bool
  deriving DecidableEq, Repr

structure OpenAlias where
  name : String
  /-- How many characters are left after the text. -/
  left : Nat
  /-- Whether the text ends with a blank, so that the word after it can be an alias too. -/
  endsInBlank : Bool
  deriving DecidableEq, Repr

namespace OpenAlias

/-- Whether the text has been used up by what was read while so many characters were left. -/
def isUsedUp (opened : OpenAlias) (before after : Nat) : Bool :=
  opened.left < before && after < opened.left

end OpenAlias

structure Source where
  rest : List Char
  line : Nat
  /-- A token that was read and given back. -/
  held : Option Token
  /-- The last word that was read, or the last text of a document. -/
  lastWord : Word
  awaited : List Awaited
  documents : List (Nat × Word)
  nextDocument : Nat
  aliases : List (String × String)
  openAliases : List OpenAlias
  isShown : Bool

abbrev Reader := StateT Source (Except SyntaxFault)

namespace Reader

def fail {Result : Type} (complaint : String) : Reader Result := do
  throw ⟨(← get).line, complaint⟩

def unexpected {Result : Type} (token : Token) (expected : Option Token) : Reader Result :=
  fail (token.name ++ " unexpected"
    ++ ((expected.map fun other => " (expecting " ++ other.name ++ ")").getD ""))

/-- The next character, which stays where it is. -/
def peek : Reader (Option Char) := return (← get).rest.head?

def drop (count : Nat) : Reader Unit :=
  modify fun source => { source with rest := source.rest.drop count }

def next : Reader (Option Char) := do
  let found ← peek
  drop 1
  return found

def nextLine : Reader Unit := modify fun source => { source with line := source.line + 1 }

/-- A text without the broken line ends in front of it, and how many there were. -/
def withoutBrokenEnds : List Char → Nat × List Char
  | '\\' :: '\n' :: rest =>
      let (count, left) := withoutBrokenEnds rest
      (count + 1, left)
  | rest => (0, rest)

def joinLines : Reader Unit := modify fun source =>
  let (count, rest) := withoutBrokenEnds source.rest
  { source with rest, line := source.line + count }

/-- The next character on what counts as one line. -/
def peekJoined : Reader (Option Char) := do
  joinLines
  peek

def nextJoined : Reader (Option Char) := do
  joinLines
  next

def accept (character : Char) : Reader Bool := do
  if (← peekJoined) = some character then
    drop 1
    return true
  return false

def takeSome (isIn : Char → Bool) : Nat → Reader (List Char)
  | 0 => return []
  | steps + 1 => do
      match ← peekJoined with
      | some character =>
          if isIn character then
            drop 1
            return character :: (← takeSome isIn steps)
          return []
      | none => return []

def takeWhile (isIn : Char → Bool) : Reader (List Char) := do
  takeSome isIn ((← get).rest.length + 1)

def skipLine : Reader Unit := modify fun source =>
  { source with rest := source.rest.dropWhile (· ≠ '\n') }

/-- A bound for the steps that reading the rest can take, aliases in it among them. -/
def steps : Reader Nat := do
  let source ← get
  let inAliases := source.aliases.foldl (fun length entry => length + entry.2.length) 0
  return 16 * (source.rest.length + inAliases + 4)

end Reader

namespace Source

def ofText (text : String) (aliases : List (String × String)) (nextDocument : Nat) : Source :=
  ⟨text.toList, 1, none, [], [], [], nextDocument, aliases, [], false⟩

end Source

end AccessWeave.Shell
