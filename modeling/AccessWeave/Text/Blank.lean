import AccessWeave.Text.CodeRanges

/-!
Blank characters: those with the Unicode property White_Space. Trimming takes them off both
ends of a text and leaves those inside. A zero width space is not blank.
-/

namespace AccessWeave.Text

/-- Code points with the Unicode property White_Space, as ascending ranges. -/
def blankRanges : List (Nat × Nat) :=
  [(0x9, 0xD), (0x20, 0x20), (0x85, 0x85), (0xA0, 0xA0), (0x1680, 0x1680), (0x2000, 0x200A),
   (0x2028, 0x2029), (0x202F, 0x202F), (0x205F, 0x205F), (0x3000, 0x3000)]

def isBlank (character : Char) : Bool :=
  withinRanges blankRanges character.toNat

def trim (characters : List Char) : List Char :=
  ((characters.dropWhile isBlank).reverse.dropWhile isBlank).reverse

end AccessWeave.Text
