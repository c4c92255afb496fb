import AccessWeave.Shell.Builtin.Letters
import AccessWeave.Shell.Fields
import AccessWeave.Shell.Numeral

/-!
Builtins that set variables, parameters and options, and show them.
-/

namespace AccessWeave.Shell.Builtin

def assignment? (word : String) : Option (String × String) :=
  match word.toList.dropWhile (· ≠ '=') with
  | [] => none
  | _ :: value => some (String.ofList (word.toList.takeWhile (· ≠ '=')), String.ofList value)

def shownVariables (front : String) (isShown : Binding → Bool)
    (bindings : List (String × Binding)) : String :=
  let shown := bindings.filter fun entry => isShown entry.2
  let sorted := shown.mergeSort fun left right => left.1 ≤ right.1
  String.join (sorted.map fun (name, binding) =>
    front ++ name ++ ((binding.value.map fun value => "=" ++ quoted value).getD "") ++ "\n")

def markWord (marks : Marks) (word : String) : Action Unit := do
  match assignment? word with
  | some (name, value) => Action.setVariableWith marks name (some value)
  | none =>
      match (← get).binding? word with
      | none => Action.setVariableWith marks word none
      | some binding =>
          modify fun state => state.putBinding word
            { binding with
              isExported := binding.isExported || marks.exports
              isReadOnly := binding.isReadOnly || marks.fixes }

def mark (name : String) (marks : Marks) (words : List String) : Action Nat := do
  let (given, names) ← letters [('p', false)] words
  if given.isEmpty && !names.isEmpty then
    names.forM (markWord marks)
    return 0
  let isShown (binding : Binding) : Bool :=
    (marks.exports && binding.isExported) || (marks.fixes && binding.isReadOnly)
  Action.emit (shownVariables (name ++ " ") isShown (← get).bindings)
  return 0

/-- Notes what a variable is before it becomes local, in the innermost frame. -/
def noteLocal (name : String) : Action Unit := modify fun state =>
  match state.locals with
  | [] => state
  | frame :: outer =>
      let bindings := (name, state.binding? name) :: frame.bindings
      { state with locals := { frame with bindings } :: outer }

/-- Notes which options are set before they become local, unless that has been done. -/
def noteOptions : Action Unit := modify fun state =>
  match state.locals with
  | [] => state
  | frame :: outer =>
      let options := some (frame.options.getD state.options)
      { state with locals := { frame with options } :: outer }

/-- Makes a variable local. It keeps its value until it gets another one, for which any name will
do at first. -/
def makeLocal (marks : Marks) (word : String) : Action Unit := do
  let (name, value) := match assignment? word with
    | some (name, value) => (name, some value)
    | none => (word, none)
  let isSet := ((← get).binding? name).isSome
  noteLocal name
  match value with
  | some _ => Action.setNamed marks name value
  | none => if isSet then return else Action.setVariableWith marks name none

def localVariables (words : List String) : Action Nat := do
  if (← get).locals.isEmpty then Action.fail "not in a function"
  words.forM fun word => if word = "-" then noteOptions else makeLocal .none word
  return 0

def restoreLocals : Action Unit := do
  match (← get).locals with
  | [] => return
  | frame :: outer =>
      modify fun state =>
        { state with locals := outer, options := frame.options.getD state.options }
      frame.bindings.forM fun (name, binding) => Action.restoreVariable name binding

def unset (words : List String) : Action Nat := do
  let (given, names) ← letters [('v', false), ('f', false)] words
  if given.getLast?.map Prod.fst = some 'f' then
    modify fun state =>
      { state with functions := state.functions.filter fun entry => entry.1 ∉ names }
  else names.forM Action.unsetVariable
  return 0

/-- Sets the parameters. Looking for options among them begins anew. -/
def setParameters (parameters : List String) : Action Unit := modify fun state =>
  { state with parameters, optionPlace := ⟨1, none⟩ }

def shownOptions (asTable : Bool) (state : State) : String :=
  let line (option : String) : String :=
    let isOn := state.hasOption option
    if asTable then
      option ++ "".pushn ' ' (16 - option.length) ++ (if isOn then "on" else "off") ++ "\n"
    else "set " ++ (if isOn then "-o " else "+o ") ++ option ++ "\n"
  (if asTable then "Current option settings\n" else "")
    ++ String.join (optionLetters.map fun entry => line entry.1)

/-- Sets an option. There is no terminal from which jobs could be controlled. -/
def setOption (isOn : Bool) (name : String) : Action Unit := do
  if isOn && name = "monitor" then
    Action.complain "can't access tty; job control turned off"
  else modify fun state => state.setOption name isOn

def setNamedOption (isOn : Bool) (name : String) : Action Unit := do
  if optionLetters.any fun entry => entry.1 = name then setOption isOn name
  else Action.fail ("Illegal option -o " ++ name)

def setLetteredOption (isOn : Bool) (letter : Char) : Action Unit := do
  match optionLetters.find? fun entry => entry.2 = some letter with
  | some (name, _) => setOption isOn name
  | none => Action.fail ("Illegal option -" ++ String.singleton letter)

/-- Sets the options that letters stand for. The letter o takes a name from the words. -/
def setOptionLetters (isOn : Bool) : List Char → List String → Action (List String)
  | [], words => return words
  | 'o' :: letters, words => do
      match words with
      | [] =>
          Action.emit (shownOptions isOn (← get))
          setOptionLetters isOn letters []
      | name :: rest =>
          setNamedOption isOn name
          setOptionLetters isOn letters rest
  | letter :: letters, words => do
      setLetteredOption isOn letter
      setOptionLetters isOn letters words

/-- Sets options as words tell, in at most so many steps. Without words that are none, the
parameters stay, unless two hyphens end the options. -/
def setByWords : Nat → List String → Action Unit
  | 0, _ => return
  | _, [] => return
  | steps + 1, word :: words => do
      match word.toList with
      | ['-'] =>
          modify fun state => (state.setOption "xtrace" false).setOption "verbose" false
          if words.isEmpty then return else setParameters words
      | ['-', '-'] => setParameters words
      | '-' :: letters => setByWords steps (← setOptionLetters true letters words)
      | '+' :: letters => setByWords steps (← setOptionLetters false letters words)
      | _ => setParameters (word :: words)

def set (words : List String) : Action Nat := do
  if words.isEmpty then
    Action.emit (shownVariables "" (fun binding => binding.value.isSome) (← get).bindings)
  else setByWords (words.length + 1) words
  return 0

def countOf (word : String) : Action Nat := do
  match count? word with
  | some count => return count
  | none => Action.illegalNumber word

def shift (words : List String) : Action Nat := do
  let count ← match words with
    | [] => pure 1
    | word :: _ => countOf word
  let parameters := (← get).parameters
  if parameters.length < count then Action.fail "can't shift that many"
  setParameters (parameters.drop count)
  return 0

structure OptionFound where
  letter : Char
  argument : Option String
  place : OptionPlace
  complaint : String
  isDone : Bool

/-- The word before a place, from the characters on that have not been used. -/
def unusedLetters (place : OptionPlace) (words : List String) : List Char :=
  match place.offset with
  | none => []
  | some offset =>
      if place.index ≤ 1 then []
      else ((words[place.index - 2]?).getD "").toList.drop offset

/-- Whether a letter is an option, and whether it takes an argument. -/
def optionKind? (letter : Char) : List Char → Option Bool
  | [] => none
  | known :: ':' :: rest => if known = letter then some true else optionKind? letter rest
  | known :: rest => if known = letter then some false else optionKind? letter rest

def readOption (known : List Char) (words : List String) (index : Nat) (used : Nat)
    (letter : Char) (rest : List Char) : OptionFound :=
  let isQuiet := known.head? = some ':'
  let next : OptionPlace := ⟨index, if rest.isEmpty then none else some (used + 1)⟩
  match optionKind? letter known with
  | none =>
      if isQuiet then ⟨'?', some (String.singleton letter), next, "", false⟩
      else ⟨'?', none, next, "Illegal option -" ++ String.singleton letter ++ "\n", false⟩
  | some false => ⟨letter, some "", next, "", false⟩
  | some true =>
      if !rest.isEmpty then ⟨letter, some (String.ofList rest), ⟨index, none⟩, "", false⟩
      else match words[index - 1]? with
        | some argument => ⟨letter, some argument, ⟨index + 1, none⟩, "", false⟩
        | none =>
            if isQuiet then
              ⟨':', some (String.singleton letter), ⟨index, none⟩, "", false⟩
            else
              ⟨'?', none, ⟨index, none⟩, "No arg for -" ++ String.singleton letter ++ " option\n",
                false⟩

def findOption (known : List Char) (words : List String) (place : OptionPlace) :
    OptionFound :=
  let ended (index : Nat) : OptionFound := ⟨'?', none, ⟨index, none⟩, "", true⟩
  match unusedLetters place words with
  | letter :: rest =>
      readOption known words place.index (place.offset.getD 0) letter rest
  | [] =>
      match (words[place.index - 1]?).map String.toList with
      | some ['-', '-'] => ended (place.index + 1)
      | some ('-' :: letter :: rest) =>
          readOption known words (place.index + 1) 1 letter rest
      | _ => ended place.index

def getOption (words : List String) : Action Nat := do
  match words with
  | known :: target :: given =>
      let state ← get
      let source := if given.isEmpty then state.parameters else given
      let place := state.optionPlace
      let place := if place.index = 0 || source.length + 1 < place.index then ⟨1, none⟩ else place
      let found := findOption known.toList source place
      if found.complaint ≠ "" then Action.write 2 found.complaint
      if !found.isDone then
        match found.argument with
        | some argument => Action.setVariable "OPTARG" argument
        | none => Action.unsetVariable "OPTARG"
      Action.setVariable "OPTIND" (toString found.place.index)
      Action.setVariable target (String.singleton found.letter)
      modify fun state => { state with optionPlace := found.place }
      return if found.isDone then 1 else 0
  | _ => Action.fail "Usage: getopts optstring var [arg...]"

/-- The characters of a line, in fragments that are divided or not, and whether the line was
ended. Unless it is raw, a backslash takes the meaning from the next character. -/
def lineFragments (isRaw : Bool) : List Char → List Fragment × Nat × Bool
  | [] => ([], 0, false)
  | '\n' :: _ => ([], 1, true)
  | '\\' :: next :: rest =>
      if isRaw then
        let (others, count, isEnded) := lineFragments isRaw (next :: rest)
        (joinPlain '\\' others, count + 1, isEnded)
      else
        let (others, count, isEnded) := lineFragments isRaw rest
        let escaped := if next = '\n' then [] else [Fragment.whole [.literal next]]
        (⟨.atSeparators, []⟩ :: escaped ++ others, count + 2, isEnded)
  | '\x00' :: rest =>
      let (others, count, isEnded) := lineFragments isRaw rest
      (others, count + 1, isEnded)
  | character :: rest =>
      let (others, count, isEnded) := lineFragments isRaw rest
      if character = '\\' && !isRaw then (others, count + 1, isEnded)
      else (joinPlain character others, count + 1, isEnded)
where
  /-- Puts a character in front of a fragment that is divided. -/
  joinPlain (character : Char) : List Fragment → List Fragment
    | ⟨.atSeparators, cells⟩ :: others => ⟨.atSeparators, .plain character :: cells⟩ :: others
    | others => ⟨.atSeparators, [.plain character]⟩ :: others

/-- Sets variables to fields. Those for which there is none become empty. -/
def setFields : List String → List (List Cell) → Action Unit
  | [], _ => return
  | name :: names, fields => do
      Action.setVariable name (Cell.text (fields.head?.getD []))
      setFields names fields.tail

/-- The fewest characters that are looked at for the end of a line, if there are so many. -/
def shortestPart : Nat := 512

/-- Takes a line from an open file, after some characters and in at most so many parts. Each part
is as long as all before it together, so that few are needed. -/
def takeLine (isRaw : Bool) (number : Nat) (before : List Char) :
    Nat → Action (List Fragment × Bool)
  | 0 => return ([], false)
  | parts + 1 => do
      let part ← Action.available number (max shortestPart before.length)
      let (fragments, count, isEnded) := lineFragments isRaw (before ++ part)
      if part.isEmpty || isEnded then
        Action.advance number (count - before.length)
        return (fragments, isEnded)
      Action.advance number part.length
      takeLine isRaw number (before ++ part) parts

def read (words : List String) : Action Nat := do
  let (given, names) ← letters [('p', true), ('r', false)] words
  if names.isEmpty then Action.fail "arg count"
  let isRaw := given.any fun entry => entry.1 = 'r'
  let (fragments, isEnded) ← match (← get).channel? 0 with
    | none => pure ([], false)
    | some number => takeLine isRaw number [] Action.patience
  setFields names (fieldsOf (← get).separators (some names.length) fragments)
  return if isEnded then 0 else 1

end AccessWeave.Shell.Builtin
