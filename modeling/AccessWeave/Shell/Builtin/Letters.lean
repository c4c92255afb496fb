import AccessWeave.Shell.Variable

/-!
Letters after hyphens, by which builtins are told what to do. Letters can share a hyphen, some
take an argument, and two hyphens end them.
-/

namespace AccessWeave.Shell.Builtin

/-- The letters that a builtin knows, and whether they take an argument. -/
abbrev KnownLetters := List (Char × Bool)

/-- The letters that words begin with, with their arguments, and the words after them. -/
abbrev Letters := List (Char × Option String) × List String

/-- Reads the letters that share a hyphen. The words after them can hold an argument. -/
def readLetters (known : KnownLetters) : List Char → List String → Action Letters
  | [], words => return ([], words)
  | letter :: letters, words => do
      match known.lookup letter with
      | none => Action.fail ("Illegal option -" ++ String.singleton letter)
      | some false =>
          let (others, rest) ← readLetters known letters words
          return ((letter, none) :: others, rest)
      | some true =>
          match letters, words with
          | [], [] => Action.fail ("No arg for -" ++ String.singleton letter ++ " option")
          | [], argument :: rest => return ([(letter, some argument)], rest)
          | _, _ => return ([(letter, some (String.ofList letters))], words)

def readAllLetters (known : KnownLetters) : Nat → List String → Action Letters
  | 0, words => return ([], words)
  | _, [] => return ([], [])
  | steps + 1, word :: words => do
      match word.toList with
      | ['-', '-'] => return ([], words)
      | '-' :: letter :: letters =>
          let (first, rest) ← readLetters known (letter :: letters) words
          let (others, rest) ← readAllLetters known steps rest
          return (first ++ others, rest)
      | _ => return ([], word :: words)

def letters (known : KnownLetters) (words : List String) : Action Letters :=
  readAllLetters known (words.length + 1) words

def withoutLetters (words : List String) : Action (List String) := do
  return (← letters [] words).2

/-- A text in quotation marks, in at most so many parts. Single quotation marks in it are put
between double ones. -/
def quotedWithin : Nat → List Char → List Char
  | 0, _ => []
  | parts + 1, text =>
      let marked := text.dropWhile (· ≠ '\'')
      let marks := marked.takeWhile (· = '\'')
      let rest := marked.dropWhile (· = '\'')
      let first := '\'' :: text.takeWhile (· ≠ '\'') ++ ['\'']
      if marks.isEmpty then first
      else
        let second := '"' :: marks ++ ['"']
        first ++ second ++ if rest.isEmpty then [] else quotedWithin parts rest

def quoted (text : String) : String :=
  String.ofList (quotedWithin (text.length + 1) text.toList)

end AccessWeave.Shell.Builtin
