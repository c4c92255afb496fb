/-!
Patterns. An asterisk fits any text, a question mark one character, brackets one character of a
set, and every other character itself; a backslash takes the meaning from the character after
it. Brackets that are not closed mean themselves. Characters are bytes, and where sets have
ranges they are ordered as signed bytes.
-/

namespace AccessWeave.Shell.Pattern

def isSpace (character : Char) : Bool :=
  character = ' ' || ('\t' ≤ character && character ≤ '\x0d')

def isPunctuation (character : Char) : Bool :=
  '!' ≤ character && character ≤ '~' && !character.isAlphanum

def namedSets : List (String × (Char → Bool)) :=
  [("alnum", Char.isAlphanum), ("alpha", Char.isAlpha),
   ("blank", fun character => character = ' ' || character = '\t'),
   ("cntrl", fun character => character < ' ' || character = '\x7f'),
   ("digit", Char.isDigit), ("graph", fun character => '!' ≤ character && character ≤ '~'),
   ("lower", Char.isLower), ("print", fun character => ' ' ≤ character && character ≤ '~'),
   ("punct", isPunctuation), ("space", isSpace), ("upper", Char.isUpper),
   ("xdigit", fun character =>
      character.isDigit || ('a' ≤ character && character ≤ 'f')
        || ('A' ≤ character && character ≤ 'F'))]

/-- A named set after an opening bracket, and what follows it. -/
def namedSet? (pattern : List Char) : Option ((Char → Bool) × List Char) :=
  namedSets.findSome? fun (name, isIn) =>
    ((":" ++ name ++ ":]").toList.isPrefixOf? pattern).map fun rest => (isIn, rest)

/-- The place of a character in the order of signed bytes. -/
def order (character : Char) : Int :=
  if character.toNat < 128 then character.toNat else (character.toNat : Int) - 256

def rangeEnd? : List Char → Option (Char × List Char)
  | '-' :: '\\' :: last :: rest => some (last, rest)
  | '-' :: last :: rest => if last = ']' then none else some (last, rest)
  | _ => none

/-- The members of the set that a pattern spells up to its closing bracket, and what follows that.
A closing bracket that comes first is a member. -/
def members (isFirst : Bool) :
    Nat → List Char → Option (List (Char → Bool) × List Char)
  | 0, _ => none
  | _, [] => none
  | steps + 1, first :: rest =>
      if first = ']' && !isFirst then some ([], rest)
      else
        let (member, after) := match if first = '[' then namedSet? rest else none with
          | some named => named
          | none =>
              let (first, rest) :=
                if first = '\\' then (rest.head?.getD first, rest.tail) else (first, rest)
              match rangeEnd? rest with
              | some (last, after) =>
                  (fun character => order first ≤ order character && order character ≤ order last,
                    after)
              | none => (fun character => character = first, rest)
        (members false steps after).map fun (others, left) => (member :: others, left)

inductive Sign
  | anyText
  | one (isFit : Char → Bool)

def bracket? (pattern : List Char) : Option (Sign × List Char) :=
  let isIn (members : List (Char → Bool)) (character : Char) : Bool :=
    members.any fun member => member character
  match pattern with
  | '!' :: rest =>
      (members true (rest.length + 1) rest).map fun (members, after) =>
        (.one fun character => !isIn members character, after)
  | _ =>
      (members true (pattern.length + 1) pattern).map fun (members, after) =>
        (.one (isIn members), after)

def signsWithin : Nat → List Char → List Sign
  | 0, _ => []
  | _, [] => []
  | steps + 1, '*' :: rest => .anyText :: signsWithin steps rest
  | steps + 1, '?' :: rest => .one (fun _ => true) :: signsWithin steps rest
  | steps + 1, '\\' :: character :: rest => .one (· = character) :: signsWithin steps rest
  | steps + 1, character :: rest =>
      match if character = '[' then bracket? rest else none with
      | some (sign, after) => sign :: signsWithin steps after
      | none => .one (· = character) :: signsWithin steps rest

def signs (pattern : List Char) : List Sign := signsWithin pattern.length pattern

/-- For every place among signs, before each of them and after the last, whether a text can have
come there. The first place is told, and signs for any text are stepped over. -/
def placesFrom : Bool → List Sign → List Bool
  | isHere, [] => [isHere]
  | isHere, .anyText :: signs => isHere :: placesFrom isHere signs
  | isHere, .one _ :: signs => isHere :: placesFrom false signs

/-- The places that a text can have come to with one more character. Whether the first is among
them is told. -/
def placesAfter (character : Char) : Bool → List Sign → List Bool → List Bool
  | isHere, .anyText :: signs, place :: places =>
      (isHere || place) :: placesAfter character (isHere || place) signs places
  | isHere, .one isFit :: signs, place :: places =>
      isHere :: placesAfter character (place && isFit character) signs places
  | isHere, _, _ => [isHere]

def placesNext (signs : List Sign) (places : List Bool) (character : Char) : List Bool :=
  placesAfter character false signs places

def isThrough (places : List Bool) : Bool := places.getLast?.getD false

/-- A text on its way through a pattern, and how long the beginnings are that the pattern fits. -/
structure Passage where
  places : List Bool
  length : Nat
  lengths : List Nat

namespace Passage

def noted (passage : Passage) : Passage :=
  if isThrough passage.places then { passage with lengths := passage.length :: passage.lengths }
  else passage

def start (signs : List Sign) : Passage := noted ⟨placesFrom true signs, 0, []⟩

def take (signs : List Sign) (passage : Passage) (character : Char) : Passage :=
  noted
    { passage with
      places := placesNext signs passage.places character
      length := passage.length + 1 }

end Passage

/-- How long the beginnings of a text are that signs fit, the longest first. -/
def lengths (signs : List Sign) (text : List Char) : List Nat :=
  (text.foldl (Passage.take signs) (.start signs)).lengths

def fits (pattern text : List Char) : Bool :=
  let signs := signs pattern
  isThrough (text.foldl (placesNext signs) (placesFrom true signs))

end AccessWeave.Shell.Pattern
