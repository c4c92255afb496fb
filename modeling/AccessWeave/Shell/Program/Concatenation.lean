import AccessWeave.Shell.Program.ShownName
import AccessWeave.Shell.Redirecting

/-!
The program that writes files one after the other. Lines can be numbered, blank lines after
blank lines left out, and what cannot be seen shown by signs that can.
-/

namespace AccessWeave.Shell.Program

structure Concatenation where
  numbersLines : Bool
  skipsBlankNumbers : Bool
  squeezes : Bool
  showsEnds : Bool
  showsTabs : Bool
  showsControls : Bool
  deriving DecidableEq, Repr

structure Progress where
  number : Nat
  startsLine : Bool
  afterBlank : Bool
  deriving DecidableEq, Repr

namespace Concatenation

def plain : Concatenation := ⟨false, false, false, false, false, false⟩

def withLetter? (choice : Concatenation) (letter : Char) : Option Concatenation :=
  match letter with
  | 'n' => some { choice with numbersLines := true }
  | 'b' => some { choice with numbersLines := true, skipsBlankNumbers := true }
  | 's' => some { choice with squeezes := true }
  | 'E' => some { choice with showsEnds := true }
  | 'T' => some { choice with showsTabs := true }
  | 'v' => some { choice with showsControls := true }
  | 'e' => some { choice with showsEnds := true, showsControls := true }
  | 't' => some { choice with showsTabs := true, showsControls := true }
  | 'A' => some { choice with showsEnds := true, showsTabs := true, showsControls := true }
  | 'u' => some choice
  | _ => none

def words : List (String × Char) :=
  [("number-nonblank", 'b'), ("number", 'n'), ("squeeze-blank", 's'), ("show-nonprinting", 'v'),
   ("show-ends", 'E'), ("show-tabs", 'T'), ("show-all", 'A')]

/-- The letter of a word, which can be cut short where no other word begins so. -/
def letterOf (word : String) : Except String Char :=
  let name := word.toList.takeWhile (· ≠ '=')
  let candidates := match words.find? fun entry => entry.1.toList = name with
    | some entry => [entry]
    | none => words.filter fun entry => name.isPrefixOf entry.1.toList
  match candidates with
  | [] => .error ("unrecognized option '--" ++ word ++ "'")
  | [(full, letter)] =>
      if word.toList.contains '=' then
        .error ("option '--" ++ full ++ "' doesn't allow an argument")
      else .ok letter
  | _ =>
      .error ("option '--" ++ word ++ "' is ambiguous; possibilities:"
        ++ String.join (candidates.map fun entry => " '--" ++ entry.1 ++ "'"))

def control (code : Nat) : List Char :=
  if code < 32 then ['^', Char.ofNat (code + 64)]
  else if code = 127 then ['^', '?']
  else [Char.ofNat code]

def shown (choice : Concatenation) (character : Char) : List Char :=
  let code := character.toNat
  if character = '\t' then if choice.showsTabs then ['^', 'I'] else [character]
  else if choice.showsControls = false then [character]
  else if code < 128 then control code
  else 'M' :: '-' :: control (code - 128)

def numberText (number : Nat) : List Char :=
  let digits := (toString number).toList
  List.replicate (6 - digits.length) ' ' ++ digits ++ ['\t']

def step (choice : Concatenation) (progress : Progress) (character : Char) :
    List Char × Progress :=
  let isBlank := progress.startsLine && character = '\n'
  if isBlank && progress.afterBlank && choice.squeezes then ([], progress)
  else
    let isNumbered :=
      progress.startsLine && choice.numbersLines && !(isBlank && choice.skipsBlankNumbers)
    let front := if isNumbered then numberText progress.number else []
    let text :=
      if character = '\n' then (if choice.showsEnds then ['$', '\n'] else ['\n'])
      else choice.shown character
    (front ++ text,
      { number := if isNumbered then progress.number + 1 else progress.number
        startsLine := character = '\n'
        afterBlank := if progress.startsLine then isBlank else false })

/-- A text in which a return is shown where it ends a line. -/
def withShownReturns (text : List Char) : List Char :=
  text.foldr
    (fun character rest =>
      if character = '\x0d' && rest.head? = some '\n' then '^' :: 'M' :: rest
      else character :: rest)
    []

def written (choice : Concatenation) (progress : Progress) (text : List Char) :
    List Char × Progress :=
  if choice = plain then (text, progress)
  else
    let text := if choice.showsEnds && !choice.showsControls then withShownReturns text else text
    let (parts, after) := text.foldl
      (fun (parts, progress) character =>
        let (part, next) := choice.step progress character
        (part :: parts, next))
      ([], progress)
    (parts.reverse.flatten, after)

end Concatenation

def reason : SystemFault → String
  | .notFound => "No such file or directory"
  | .permissionDenied => "Permission denied"
  | .notADirectory => "Not a directory"
  | .isADirectory => "Is a directory"
  | .nameTooLong => "File name too long"
  | .noDevice => "No such device or address"
  | .noSpace => "No space left on device"
  | fault => fault.message

def badChannel : String := "Bad file descriptor"

/-- The open file of a name, which is the input for a hyphen. -/
def openNamed (name : String) : Action (Except String Nat) := do
  if name = "-" then
    match (← get).channel? 0 with
    | none => return .error badChannel
    | some number => return .ok number
  else match ← Redirecting.tryOpen .read name with
    | .error fault => return .error (reason fault)
    | .ok number => return .ok number

/-- Whether what is left to read of an open file is in the file that another one writes to. -/
def isBehind (world : World) (file other : OpenFile) : Bool :=
  match file.stream, other.stream with
  | .file location, .file otherLocation =>
      location = otherLocation && file.place < (world.bytesAt location).length
  | _, _ => false

def obstacle? (state : State) (number : Nat) : Option String :=
  let output := (state.channel? 1).bind state.world.opened?
  match state.world.opened? number with
  | none => some badChannel
  | some file =>
      if output.any (isBehind state.world file) then some "input file is output file"
      else if file.reads = false then some badChannel
      else if file.stream = .directory then some (reason .isADirectory)
      else none

def lossReason : Action String := do
  let state ← get
  match (state.channel? 1).bind state.world.opened? with
  | some file => return if file.writes then reason .noSpace else badChannel
  | none => return badChannel

/-- Writes what there is to read of an open file, in at most so many parts; how far that came, if
it could be written. -/
def copyParts (choice : Concatenation) (number : Nat) :
    Nat → Progress → Action (Option Progress)
  | 0, progress => return some progress
  | parts + 1, progress => do
      let part ← Action.available number Action.partLength
      if part.isEmpty then return some progress
      Action.advance number part.length
      let (written, after) := choice.written progress part
      if ← Action.tryWrite 1 (String.ofList written) then copyParts choice number parts after
      else return none

def concatenateFrom (called : String) (choice : Concatenation) (progress : Progress) :
    List String → Action Nat
  | [] => return 0
  | name :: names => do
      let opened ← openNamed name
      let state ← get
      match opened.bind fun number => (obstacle? state number).elim (.ok number) .error with
      | .error reason =>
          Action.write 2 (called ++ ": " ++ shownName name ++ ": " ++ reason ++ "\n")
          let _ ← concatenateFrom called choice progress names
          return 1
      | .ok number =>
          match ← copyParts choice number Action.patience progress with
          | some after => concatenateFrom called choice after names
          | none =>
              Action.write 2 (called ++ ": write error: " ++ (← lossReason) ++ "\n")
              return 1

/-- Reads the options in front of, between and after names. -/
def concatenationOptions (choice : Concatenation) :
    List String → Except String (Concatenation × List String)
  | [] => .ok (choice, [])
  | word :: words =>
      match word.toList with
      | ['-', '-'] => .ok (choice, words)
      | '-' :: '-' :: long => do
          let letter ← Concatenation.letterOf (String.ofList long)
          concatenationOptions ((choice.withLetter? letter).getD choice) words
      | '-' :: letter :: letters =>
          match (letter :: letters).find? fun letter => (choice.withLetter? letter).isNone with
          | some unknown => .error ("invalid option -- '" ++ String.singleton unknown ++ "'")
          | none =>
              let chosen := (letter :: letters).foldl
                (fun choice letter => (choice.withLetter? letter).getD choice) choice
              concatenationOptions chosen words
      | _ => (concatenationOptions choice words).map fun (chosen, names) =>
          (chosen, word :: names)

def concatenate (called : String) (words : List String) : Action Nat := do
  match concatenationOptions .plain words with
  | .error complaint =>
      Action.write 2 (called ++ ": " ++ complaint ++ "\nTry '" ++ called
        ++ " --help' for more information.\n")
      return 1
  | .ok (choice, names) =>
      if ((← get).channel? 1).isNone then
        Action.write 2 (called ++ ": standard output: " ++ badChannel ++ "\n")
        return 1
      let names := if names.isEmpty then ["-"] else names
      let status ← concatenateFrom called choice ⟨1, true, false⟩ names
      if names.contains "-" && ((← get).channel? 0).isNone then
        Action.write 2 (called ++ ": closing standard input: " ++ badChannel ++ "\n")
        return 1
      return status

end AccessWeave.Shell.Program
