import AccessWeave.Text.Octets

/-!
Names of files in the complaints of programs. A name that a shell would read as one word as it
stands is shown so. Others are put between quotation marks in such a way that a shell reads the
name back, and no character is shown that could not be seen. A name has a character for each
byte.
-/

namespace AccessWeave.Shell.Program

def isVisible (character : Char) : Bool := 32 ≤ character.toNat && character.toNat < 127

/-- Whether a character stands for itself, wherever it stands in a word. -/
def isOrdinary (character : Char) : Bool :=
  character.isAlphanum || "%+,-./:]_".toList.contains character

def isPlainName (characters : List Char) : Bool :=
  let isPlain (character : Char) : Bool :=
    (character ≠ ':' && isOrdinary character) || "@#~\x7b\x7d".toList.contains character
  match characters with
  | [] => false
  | [character] => (character ≠ ':' && isOrdinary character) || character = '@'
  | first :: rest => first ≠ '#' && first ≠ '~' && isPlain first && rest.all isPlain

def suitsDoubleMarks (characters : List Char) : Bool :=
  let suits (character : Char) : Bool :=
    isOrdinary character || character = ' ' || character = '\''
  match characters with
  | [] => true
  | first :: rest => (first = '#' || first = '~' || suits first) && rest.all suits

def spelled (character : Char) : List Char :=
  let code := character.toNat
  let digit (value : Nat) : Char := Char.ofNat ('0'.toNat + value % 8)
  match [(7, 'a'), (8, 'b'), (9, 't'), (10, 'n'), (11, 'v'), (12, 'f'), (13, 'r')].lookup code with
  | some letter => ['\\', letter]
  | none => ['\\', digit (code / 64), digit (code / 8), digit code]

/-- The rest of a name between single quotation marks. Unseen characters stand between marks of
their own, in which the text in front either is already or not. -/
def betweenSingleMarks : Bool → List Char → List Char
  | _, [] => ['\'']
  | isSpelling, character :: rest =>
      if character = '\'' then '\'' :: '\\' :: '\'' :: '\'' :: betweenSingleMarks false rest
      else if isVisible character then
        (if isSpelling then ['\'', '\''] else []) ++ character :: betweenSingleMarks false rest
      else
        (if isSpelling then [] else ['\'', '$', '\'']) ++ spelled character
          ++ betweenSingleMarks true rest

def shownName (name : String) : String :=
  let characters := name.toList
  if isPlainName characters then name
  else if characters.contains '\'' && suitsDoubleMarks characters then "\"" ++ name ++ "\""
  else String.ofList ('\'' :: betweenSingleMarks false characters)

end AccessWeave.Shell.Program
