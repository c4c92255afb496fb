/-!
Cutting a text at separators. Cutting everywhere keeps empty pieces, so joining the pieces
with the separator gives the text back; cutting once keeps later separators in the second part.
-/

namespace AccessWeave.Text

/-- The pieces between the separators, one more than there are separators. -/
def pieces (separator : Char) : List Char → List (List Char)
  | [] => [[]]
  | character :: rest =>
      if character = separator then [] :: pieces separator rest
      else match pieces separator rest with
        | [] => [[character]]
        | piece :: others => (character :: piece) :: others

def cutOnce (isSeparator : Char → Bool) : List Char → Option (List Char × List Char)
  | [] => none
  | character :: rest =>
      if isSeparator character then some ([], rest)
      else match cutOnce isSeparator rest with
        | none => none
        | some (before, after) => some (character :: before, after)

def cutLast (isSeparator : Char → Bool) (characters : List Char) :
    Option (List Char × List Char) :=
  match cutOnce isSeparator characters.reverse with
  | none => none
  | some (after, before) => some (before.reverse, after.reverse)

end AccessWeave.Text
