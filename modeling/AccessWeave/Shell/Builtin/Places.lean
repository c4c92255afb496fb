import AccessWeave.Shell.Builtin.Letters
import AccessWeave.Shell.Numeral

/-!
Builtins that have to do with the working directory and with what new files may be used for.
The working directory is known by the path that led to it, in which steps back undo steps, and
by where it really is.
-/

namespace AccessWeave.Shell.Builtin

/-- The steps of a path, with those undone that a step back follows. -/
def walked (steps : List String) : List String :=
  (steps.foldl
    (fun walked step =>
      if step = "" || step = "." then walked
      else if step = ".." then walked.tail
      else step :: walked)
    []).reverse

def stepsOf (text : String) : List String := (text.toList.splitOn '/').map String.ofList

/-- The path that a path leads to from a directory. Two slashes at the start are kept. -/
def pathFrom (directory path : String) : String :=
  let text := if path.toList.head? = some '/' then path else directory ++ "/" ++ path
  let isDouble := match text.toList with
    | '/' :: '/' :: '/' :: _ => false
    | '/' :: '/' :: _ => path.toList.head? = some '/'
    | _ => false
  (if isDouble then "//" else "/") ++ String.intercalate "/" (walked (stepsOf text))

def absolutePath (location : Location) : String :=
  "/" ++ String.intercalate "/" (location.map Text.octets)

def enter (isPhysical : Bool) (path : String) : Action Bool := do
  let state ← get
  let text := if isPhysical then path else pathFrom state.directoryText path
  match state.tree.locate ⟨Text.ofOctets text⟩ with
  | .error _ => return false
  | .ok location =>
      if state.tree.entryAt? location ≠ some .directory then return false
      let shown := if isPhysical then absolutePath location else text
      Action.setVariableWith .exported "OLDPWD" (some state.directoryText)
      modify fun state =>
        { state with
          directory := location
          directoryText := shown
          tracked := state.tracked.map fun (name, tracked) =>
            (name, { tracked with isOld := true }) }
      Action.setVariableWith .exported "PWD" (some shown)
      return true

def isAnchored (path : String) : Bool :=
  match path.toList with
  | '/' :: _ => true
  | ['.'] => true
  | '.' :: '/' :: _ => true
  | ['.', '.'] => true
  | '.' :: '.' :: '/' :: _ => true
  | _ => false

def inPlace (place path : String) : String :=
  if place = "" then path else place ++ "/" ++ path

/-- The places where a directory is looked for, the working directory among them or not. -/
def directoryPlaces (state : State) (path : String) : List String :=
  if isAnchored path then []
  else (((state.value? "CDPATH").getD "").toList.splitOn ':').map String.ofList

def changeDirectory (words : List String) : Action Nat := do
  let (given, rest) ← letters [('L', false), ('P', false)] words
  let isPhysical := given.getLast?.map Prod.fst = some 'P'
  let state ← get
  let wanted := rest.head?.getD ((state.value? "HOME").getD "")
  let isBack := wanted = "-"
  let wanted := if isBack then (state.value? "OLDPWD").getD "" else wanted
  let path := if wanted = "" then "." else wanted
  let isThere (place : String) : Bool :=
    (state.tree.isDirectory ⟨Text.ofOctets (inPlace place path)⟩)
  let found := (directoryPlaces state path).find? isThere
  let place := found.getD ""
  if ← enter isPhysical (inPlace place path) then
    if isBack || place ≠ "" then Action.emit ((← get).directoryText ++ "\n")
    return 0
  else Action.fail ("can't cd to " ++ wanted)

def printDirectory (words : List String) : Action Nat := do
  let (given, _) ← letters [('L', false), ('P', false)] words
  let state ← get
  let isPhysical := given.getLast?.map Prod.fst = some 'P'
  Action.emit
    ((if isPhysical then absolutePath state.directory else state.directoryText) ++ "\n")
  return 0

/-- The bits that a letter of a change stands for, for one kind of user, when a mode is changed. -/
def modeBits (mode : Nat) (letter : Char) : Option Nat :=
  match letter with
  | 'r' => some 4
  | 'w' => some 2
  | 'x' => some 1
  | 'X' => some ((mode / 64 ||| mode / 8 ||| mode) % 2)
  | 's' => some 0
  | 'u' => some (mode / 64 % 8)
  | 'g' => some (mode / 8 % 8)
  | 'o' => some (mode % 8)
  | _ => none

def userFactors (letters : List Char) : List Nat :=
  let named (letter : Char) : Bool := letters.isEmpty || letter ∈ letters || 'a' ∈ letters
  [('u', 64), ('g', 8), ('o', 1)].filterMap fun (letter, factor) =>
    if named letter then some factor else none

/-- Whether a character is the sign of a change: bits are added, taken away, or all that stay. -/
def isModeSign (character : Char) : Bool := character ∈ ['+', '-', '=']

/-- A mode with some bits added for the users of some factors, or taken away. -/
def withBits (factors : List Nat) (adds : Bool) (bits mode : Nat) : Nat :=
  factors.foldl
    (fun mode factor =>
      let held := mode / factor % 8
      let wanted := if adds then held ||| bits else held &&& (7 ^^^ bits)
      mode - held * factor + wanted * factor)
    mode

/-- A mode after changes for the users of some factors: signs with letters after them. The
letters speak of the mode that there was before all changes. -/
def modeAfterSigns? (first : Nat) (factors : List Nat) (sign : Char) (mode : Nat) :
    List Char → Option Nat
  | [] => some mode
  | character :: rest =>
      if isModeSign character then
        let mode := if character = '=' then withBits factors false 7 mode else mode
        modeAfterSigns? first factors character mode rest
      else do
        let bits ← modeBits first character
        modeAfterSigns? first factors sign (withBits factors (sign ≠ '-') bits mode) rest

/-- A mode after changes, each for some users. Only the last can leave everything as it is. -/
def modeAfter? (first : Nat) (mode : Nat) : List (List Char) → Option Nat
  | [] => some mode
  | change :: changes => do
      let isUser (letter : Char) : Bool := letter ∈ ['u', 'g', 'o', 'a']
      let factors := userFactors (change.takeWhile isUser)
      match change.dropWhile isUser with
      | [] => if changes.isEmpty then some mode else none
      | sign :: rest =>
          if isModeSign sign then
            modeAfter? first (← modeAfterSigns? first factors sign mode (sign :: rest)) changes
          else none

def modeText (mode : Nat) : String :=
  let bits (value : Nat) : String :=
    String.ofList ([(4, 'r'), (2, 'w'), (1, 'x')].filterMap fun (bit, letter) =>
      if value / bit % 2 = 1 then some letter else none)
  "u=" ++ bits (mode / 64 % 8) ++ ",g=" ++ bits (mode / 8 % 8) ++ ",o=" ++ bits (mode % 8)

def setMask (word : String) : Action Unit := do
  let mask := (← get).mask
  match word.toList with
  | [] => return
  | first :: _ =>
      if first.isDigit then
        if word.toList.all fun digit => '0' ≤ digit && digit ≤ '7' then
          let value := word.toList.foldl (fun value digit => value * 8 + (digit.toNat - 48)) 0
          modify fun state => { state with mask := value % 512 }
        else Action.illegalNumber word
      else
        match modeAfter? (511 - mask) (511 - mask) (word.toList.splitOn ',') with
        | some mode => modify fun state => { state with mask := 511 - mode }
        | none => Action.fail ("Illegal mode: " ++ word)

def fileMask (words : List String) : Action Nat := do
  let (given, rest) ← letters [('S', false)] words
  match rest with
  | word :: _ => setMask word
  | [] =>
      let mask := (← get).mask
      if given.isEmpty then
        let digits := Nat.toDigits 8 mask
        Action.emit
          (String.ofList (List.replicate (4 - digits.length) '0' ++ digits) ++ "\n")
      else Action.emit (modeText (511 - mask) ++ "\n")
  return 0

/-- Nothing of what programs use is limited. -/
def limits (words : List String) : Action Nat := do
  let known := "HSacdflmnpstvwr".toList.map fun letter => (letter, false)
  let (_, rest) ← letters known words
  if rest.isEmpty then Action.emit "unlimited\n"
  return 0

def printTimes : Action Nat := do
  Action.emit "0m0.000000s 0m0.000000s\n0m0.000000s 0m0.000000s\n"
  return 0

end AccessWeave.Shell.Builtin
