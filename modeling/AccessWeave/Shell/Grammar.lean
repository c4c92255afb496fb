/-!
What a script says, once it has been read. A word is a list of pieces, which are filled in only
when the word is needed; a command is made of words, of commands, and of where its channels
lead. The lines on which commands begin are kept for complaints.

Every character of a script stands for one byte.
-/

namespace AccessWeave.Shell

/-- Which part of a text is cut off: the shortest or longest one that fits, at either end. -/
structure Trim where
  atStart : Bool
  longest : Bool
  deriving DecidableEq, Repr

inductive Use
  | value
  | length
  /-- The value, or else the word. -/
  | orWord
  /-- The value, or else the word, which is its value from now on. -/
  | orAssign
  /-- The value, or else a complaint with the word. -/
  | orComplain
  /-- The word, if there is a value. -/
  | wordInstead
  | trimmed (trim : Trim)
  /-- Braces around what names no use. -/
  | malformed
  deriving DecidableEq, Repr

inductive Opening
  | read
  | write
  /-- Writing even where files are not to be replaced. -/
  | overwrite
  | append
  | readWrite
  deriving DecidableEq, Repr

mutual

inductive Piece
  | plain (character : Char)
  | quoted (character : Char)
  /-- A quotation mark: from here on pieces are quoted, or no longer are. -/
  | mark
  /-- A parameter. When `emptyCounts`, one without any text counts as having no value. -/
  | parameter (name : String) (use : Use) (emptyCounts : Bool) (word : List Piece)
  | substitution (body : Option Command)
  | arithmetic (expression : List Piece)

inductive Redirection
  | file (channel : Nat) (opening : Opening) (path : List Piece)
  | copied (channel source : Nat)
  | closed (channel : Nat)
  /-- A copy of the channel that a word tells. -/
  | copiedByWord (channel : Nat) (word : List Piece)
  /-- A text in the script, known by its number. When `isFilled` its parameters are filled in. -/
  | document (channel : Nat) (isFilled : Bool) (number : Nat)

inductive Command
  | simple (line : Nat) (assignments words : List (List Piece))
      (redirections : List Redirection)
  | pipeline (commands : List Command)
  | background (line : Nat) (command : Command)
  | negated (command : Command)
  | both (first second : Command)
  | either (first second : Command)
  | sequence (commands : List Command)
  | conditional (test onSuccess : Option Command) (onFailure : Option Command)
  | repeated (isUntil : Bool) (test body : Option Command)
  | forEach (line : Nat) (name : String) (words : List (List Piece)) (body : Option Command)
  | choice (line : Nat) (subject : List Piece)
      (cases : List (List (List Piece) × Option Command))
  | redirected (line : Nat) (command : Option Command) (redirections : List Redirection)
  | subshell (line : Nat) (body : Option Command) (redirections : List Redirection)
  | function (line : Nat) (name : String) (body : Command)

end

inductive Target
  | file (channel : Nat) (opening : Opening) (path : String)
  | copied (channel source : Nat)
  | closed (channel : Nat)
  | document (channel : Nat) (isFilled : Bool) (number : Nat)
  deriving DecidableEq, Repr

namespace Target

def channel : Target → Nat
  | file channel _ _ => channel
  | copied channel _ => channel
  | closed channel => channel
  | document channel _ _ => channel

end Target

abbrev Word := List Piece

def everyParameter : Word := [.mark, .parameter "@" .value false [], .mark]

def isNameStart (character : Char) : Bool := character.isAlpha || character = '_'

def isNameLetter (character : Char) : Bool := character.isAlphanum || character = '_'

def isName (name : List Char) : Bool :=
  match name with
  | [] => false
  | first :: others => isNameStart first && others.all isNameLetter

def isSpecialParameter (character : Char) : Bool :=
  character.isDigit || character ∈ ['#', '?', '$', '!', '-', '*', '@']

namespace Piece

/-- The character of a piece that has no meaning of its own. -/
def plain? : Piece → Option Char
  | plain character => some character
  | _ => none

def character? : Piece → Option Char
  | plain character => some character
  | quoted character => some character
  | _ => none

end Piece

namespace Word

def plainText? (word : Word) : Option String := (word.mapM Piece.plain?).map String.ofList

def literalText (word : Word) : String := String.ofList (word.filterMap Piece.character?)

def assignment? (word : Word) : Option (String × Word) :=
  let isEquals (piece : Piece) : Bool := piece.plain? = some '='
  let before := word.takeWhile fun piece => !isEquals piece
  match word.dropWhile fun piece => !isEquals piece with
  | [] => none
  | _ :: value =>
      match before.mapM Piece.plain? with
      | none => none
      | some name => if isName name then some (String.ofList name, value) else none

end Word

end AccessWeave.Shell
