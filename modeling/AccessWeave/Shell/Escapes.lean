/-!
Texts that spell characters: a backslash with a letter or with octal digits stands for a
character that is hard to write. A backslash with anything else stands for itself.
-/

namespace AccessWeave.Shell.Escapes

def controlCharacter? : Char → Option Char
  | 'a' => some '\x07'
  | 'b' => some '\x08'
  | 'e' => some '\x1b'
  | 'f' => some '\x0c'
  | 'n' => some '\n'
  | 'r' => some '\r'
  | 't' => some '\t'
  | 'v' => some '\x0b'
  | '\\' => some '\\'
  | _ => none

def isOctalDigit (character : Char) : Bool := '0' ≤ character && character ≤ '7'

def octalCharacter (digits : List Char) : Char :=
  Char.ofNat (digits.foldl (fun total digit => total * 8 + (digit.toNat - 48)) 0 % 256)

def spelled (rest : List Char) : Char × List Char :=
  match rest with
  | [] => ('\\', [])
  | letter :: after =>
      if isOctalDigit letter then
        let digits := letter :: (after.takeWhile isOctalDigit).take 2
        (octalCharacter digits, rest.drop digits.length)
      else match controlCharacter? letter with
        | some control => (control, after)
        | none => ('\\', rest)

theorem spelled_not_longer (rest : List Char) : (spelled rest).2.length ≤ rest.length := by
  unfold spelled
  split
  · exact Nat.le_refl _
  · rename_i letter after
    split
    · simp only [List.length_drop]
      omega
    · split
      · simp only [List.length_cons]
        omega
      · exact Nat.le_refl _

def withoutZero (rest : List Char) : List Char :=
  match rest with
  | '0' :: digit :: after => if isOctalDigit digit then digit :: after else rest
  | _ => rest

theorem without_zero_not_longer (rest : List Char) :
    (withoutZero rest).length ≤ rest.length := by
  unfold withoutZero
  split
  · split
    · simp only [List.length_cons]
      omega
    · exact Nat.le_refl _
  · exact Nat.le_refl _

/-- A text with the characters that it spells, and whether a backslash with the letter c ended
it. -/
def unescaped : List Char → List Char × Bool
  | [] => ([], false)
  | character :: rest =>
      if character ≠ '\\' then
        let (text, isOver) := unescaped rest
        (character :: text, isOver)
      else if rest.head? = some 'c' then ([], true)
      else
        let found := spelled (withoutZero rest)
        let (text, isOver) := unescaped found.2
        (found.1 :: text, isOver)
  termination_by characters => characters.length
  decreasing_by
    · simp only [List.length_cons]
      omega
    · have shorter := spelled_not_longer (withoutZero rest)
      have kept := without_zero_not_longer rest
      simp only [List.length_cons]
      omega

end AccessWeave.Shell.Escapes
