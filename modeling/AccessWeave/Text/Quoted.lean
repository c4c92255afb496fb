import AccessWeave.Text.Extender
import AccessWeave.Text.Hex
import AccessWeave.Text.Invisible

/-!
Texts in quotation marks, as a listing shows them. Whatever a reader could not see or could
misread is spelled out: the quotation mark, the backslash, the common controls by a letter,
and every extender or invisible character by its code point in braces.
-/

namespace AccessWeave.Text

def quotedCharacter (character : Char) : List Char :=
  if character = '\x00' then ['\\', '0']
  else if character = '\t' then ['\\', 't']
  else if character = '\r' then ['\\', 'r']
  else if character = '\n' then ['\\', 'n']
  else if character = '"' then ['\\', '"']
  else if character = '\\' then ['\\', '\\']
  else if isExtender character || isInvisible character then
    ['\\', 'u', '\x7b'] ++ hexNumber character.toNat ++ ['\x7d']
  else [character]

def quoted (text : String) : String :=
  String.ofList (['"'] ++ text.toList.flatMap quotedCharacter ++ ['"'])

end AccessWeave.Text
