import AccessWeave.Shell.Tokens

/-!
Reading commands. A script is read one line at a time, so that what a line does can change how
the next one is read; a command that is not finished goes on over as many lines as it takes.

Commands contain commands. The readers here are given the readers for what is inside, and the
two are tied together at the end by a bound on how deep commands can stand in each other, which
the length of the script gives.
-/

namespace AccessWeave.Shell

inductive Row
  | line
  | needed
  | possible
  deriving DecidableEq, Repr

structure Inner where
  row : Row → Reader (Option Command)
  command : Reader Command

namespace Inner

def nested (inner : Inner) : Reader (Option Command) := inner.row .possible

def token (inner : Inner) (expectation : Expectation) : Reader Token :=
  readToken inner.nested expectation

end Inner

/-- Commands that assignments in front of them and errors in them make a difference to. -/
def specialBuiltins : List String :=
  [".", ":", "break", "continue", "eval", "exec", "exit", "export", "local", "readonly", "return",
   "set", "shift", "times", "trap", "unset"]

def expect (inner : Inner) (expectation : Expectation) (wanted : Token)
    (isWanted : Token → Bool) : Reader Unit := do
  let token ← inner.token expectation
  if isWanted token then return
  else Reader.unexpected token (some wanted)

def expectKeyword (inner : Inner) (expectation : Expectation) (text : String) : Reader Unit :=
  expect inner expectation (.keyword text) fun token => token.isKeyword text

def digit? (text : String) : Option Nat :=
  match text.toList with
  | [digit] => if digit.isDigit then some (digit.toNat - '0'.toNat) else none
  | _ => none

def readTarget (inner : Inner) (sign : RedirectionSign) : Reader Redirection := do
  let token ← match sign with
    | .document _ _ => nextToken inner.nested .delimiter
    | _ => inner.token .nothing
  match token, sign with
  | .word word _, .file channel opening => return .file channel opening word
  | .word word _, .copy channel =>
      match Word.plainText? word with
      | some "-" => return .closed channel
      | some text =>
          match digit? text with
          | some source => return .copied channel source
          | none => return .copiedByWord channel word
      | none => return .copiedByWord channel word
  | .word word isQuoted, .document channel stripsTabs =>
      let number := (← get).nextDocument
      let awaited : Awaited := ⟨number, (Word.literalText word).toList, !isQuoted, stripsTabs⟩
      modify fun source =>
        { source with awaited := source.awaited ++ [awaited], nextDocument := number + 1 }
      return .document channel (!isQuoted) number
  | _, _ => Reader.unexpected token none

def readRedirections (inner : Inner) : Nat → Reader (List Redirection)
  | 0 => return []
  | steps + 1 => do
      match ← inner.token .command with
      | .redirection sign =>
          let first ← readTarget inner sign
          return first :: (← readRedirections inner steps)
      | token =>
          giveBack token
          return []

/-- The parts of a simple command, the last of each first. -/
structure Simple where
  assignments : List Word
  words : List Word
  redirections : List Redirection

def readFunction (inner : Inner) (word : Word) : Reader Command := do
  expect inner .nothing (.operator ")") fun token => token.isOperator ")"
  let name := (Word.plainText? word).getD ""
  if isName name.toList && name ∉ specialBuiltins then
    let line := (← get).line
    let first ← inner.token .laterCommand
    giveBack first
    return .function line name (← inner.command)
  else Reader.fail "Bad function name"

def readSimple (inner : Inner) (line : Nat) : Nat → Simple → Reader Command
  | 0, simple => return finish simple
  | steps + 1, simple => do
      let isFirst := simple.words.isEmpty
      match ← inner.token ⟨false, false, isFirst⟩ with
      | .word word _ =>
          if isFirst && (Word.assignment? word).isSome then
            readSimple inner line steps
              { simple with assignments := word :: simple.assignments }
          else readSimple inner line steps { simple with words := word :: simple.words }
      | .redirection sign =>
          let target ← readTarget inner sign
          readSimple inner line steps
            { simple with redirections := target :: simple.redirections }
      | token =>
          match simple, token.isOperator "(" with
          | ⟨[], [word], []⟩, true => readFunction inner word
          | _, _ =>
              giveBack token
              return finish simple
where
  finish (simple : Simple) : Command :=
    .simple line simple.assignments.reverse simple.words.reverse simple.redirections.reverse

def readBranches (inner : Inner) : Nat → Reader Command
  | 0 => Reader.fail "end of file unexpected"
  | steps + 1 => do
      let test ← inner.row .needed
      expectKeyword inner .nothing "then"
      let onSuccess ← inner.row .needed
      let token ← inner.token .nothing
      if token.isKeyword "elif" then
        let rest ← readBranches inner steps
        return .conditional test onSuccess (some rest)
      else if token.isKeyword "else" then
        let onFailure ← inner.row .needed
        return .conditional test onSuccess onFailure
      else
        giveBack token
        return .conditional test onSuccess none

def readLoop (inner : Inner) (isUntil : Bool) : Reader Command := do
  let test ← inner.row .needed
  expectKeyword inner .nothing "do"
  let body ← inner.row .needed
  return .repeated isUntil test body

def readWords (inner : Inner) : Nat → Reader (List Word × Token)
  | 0 => return ([], .endOfFile)
  | steps + 1 => do
      match ← inner.token .nothing with
      | .word word _ =>
          let (others, follower) ← readWords inner steps
          return (word :: others, follower)
      | token => return ([], token)

def readForEach (inner : Inner) (line : Nat) : Reader Command := do
  let name := match ← inner.token .nothing with
    | .word written false => (Word.plainText? written).getD ""
    | _ => ""
  if isName name.toList = false then Reader.fail "Bad for loop variable"
  let token ← inner.token .laterCommand
  let words ←
    if token.isKeyword "in" then
      let (words, follower) ← readWords inner (← Reader.steps)
      if !follower.isNewline && !follower.isOperator ";" then
        Reader.unexpected follower none
      pure words
    else
      if !token.isOperator ";" then giveBack token
      pure [everyParameter]
  expectKeyword inner .laterCommand "do"
  return .forEach line name words (← inner.row .needed)

/-- Reads the patterns of a case when the token of the first has been read, and the token after
them. A token that is no word stands for the last word before it. -/
def readPatterns (inner : Inner) : Nat → Reader (List Word × Token)
  | 0 => return ([], .endOfFile)
  | steps + 1 => do
      let pattern := (← get).lastWord
      let token ← inner.token .nothing
      if token.isOperator "|" then
        let _ ← inner.token .nothing
        let (others, follower) ← readPatterns inner steps
        return (pattern :: others, follower)
      else return ([pattern], token)

def readCases (inner : Inner) : Nat → Reader (List (List Word × Option Command))
  | 0 => return []
  | steps + 1 => do
      let token ← inner.token ⟨true, true, false⟩
      if token.isKeyword "esac" then return []
      if token.isOperator "(" then
        let _ ← inner.token .nothing
      let (patterns, follower) ← readPatterns inner (← Reader.steps)
      if !follower.isOperator ")" then
        Reader.unexpected follower (some (.operator ")"))
      let body ← inner.row .possible
      let ending ← inner.token ⟨true, true, false⟩
      if ending.isKeyword "esac" then return [(patterns, body)]
      else if ending.isOperator ";;" then
        return (patterns, body) :: (← readCases inner steps)
      else Reader.unexpected ending (some (.operator ";;"))

def readChoice (inner : Inner) (line : Nat) : Reader Command := do
  match ← inner.token .nothing with
  | .word subject _ =>
      expectKeyword inner .laterCommand "in"
      return .choice line subject (← readCases inner (← Reader.steps))
  | token => Reader.unexpected token (some (.word [] false))

/-- Reads the rest of a command that ends with a keyword, and its redirections. -/
def closeWith (inner : Inner) (line : Nat) (keyword : String) (command : Command) :
    Reader Command := do
  expectKeyword inner .nothing keyword
  redirect inner line command
where
  redirect (inner : Inner) (line : Nat) (command : Command) : Reader Command := do
    match ← readRedirections inner (← Reader.steps) with
    | [] => return command
    | redirections => return .redirected line (some command) redirections

def readSubshell (inner : Inner) (line : Nat) : Reader Command := do
  let body ← inner.row .needed
  expect inner .nothing (.operator ")") fun token => token.isOperator ")"
  return .subshell line body (← readRedirections inner (← Reader.steps))

def readGroup (inner : Inner) (line : Nat) : Reader Command := do
  let body ← inner.row .needed
  expectKeyword inner .nothing "\x7d"
  match body, ← readRedirections inner (← Reader.steps) with
  | some command, [] => return command
  | _, redirections => return .redirected line body redirections

def readCommandWith (inner : Inner) : Reader Command := do
  let token ← inner.token .nothing
  let line := (← get).line
  match token with
  | .word .. | .redirection _ =>
      giveBack token
      readSimple inner line (← Reader.steps) ⟨[], [], []⟩
  | .operator "(" => readSubshell inner line
  | .keyword "\x7b" => readGroup inner line
  | .keyword "if" => closeWith inner line "fi" (← readBranches inner (← Reader.steps))
  | .keyword "while" => closeWith inner line "done" (← readLoop inner false)
  | .keyword "until" => closeWith inner line "done" (← readLoop inner true)
  | .keyword "for" => closeWith inner line "done" (← readForEach inner line)
  | .keyword "case" => closeWith.redirect inner line (← readChoice inner line)
  | _ => Reader.unexpected token none

def readJoined (inner : Inner) : Nat → Reader (List Command)
  | 0 => return []
  | steps + 1 => do
      let command ← readCommandWith inner
      let token ← inner.token .nothing
      if token.isOperator "|" then
        let following ← inner.token .laterCommand
        giveBack following
        return command :: (← readJoined inner steps)
      else
        giveBack token
        return [command]

def readPipeline (inner : Inner) : Reader Command := do
  let token ← inner.token .nothing
  let isNegated := token.isKeyword "!"
  if isNegated then giveBack (← inner.token .command) else giveBack token
  let command := match ← readJoined inner (← Reader.steps) with
    | [command] => command
    | commands => .pipeline commands
  return if isNegated then .negated command else command

def readDependent (inner : Inner) : Nat → Command → Reader Command
  | 0, command => return command
  | steps + 1, command => do
      let token ← inner.token .nothing
      let isBoth := token.isOperator "&&"
      if isBoth || token.isOperator "||" then
        giveBack (← inner.token .laterCommand)
        let next ← readPipeline inner
        readDependent inner steps (if isBoth then .both command next else .either command next)
      else
        giveBack token
        return command

def rowCommand? : List Command → Option Command
  | [] => none
  | [command] => some command
  | commands => some (.sequence commands.reverse)

def readRowOn (inner : Inner) (row : Row) (mayEnd : Bool) :
    Nat → List Command → Reader (Option Command)
  | 0, commands => return rowCommand? commands
  | steps + 1, commands => do
      let token ← inner.token ⟨row ≠ .line, true, true⟩
      match token with
      | .newline =>
          readDocuments inner.nested
          return rowCommand? commands
      | .endOfFile =>
          readDocuments inner.nested
          giveBack token
          return rowCommand? commands
      | _ =>
          giveBack token
          if row ≠ .line && mayEnd && token.endsCommands then return rowCommand? commands
          let line := (← get).line
          let command ← readDependent inner (← Reader.steps) (← readPipeline inner)
          let follower ← inner.token .nothing
          match follower with
          | .operator "&" => readRowOn inner row true steps (.background line command :: commands)
          | .operator ";" => readRowOn inner row true steps (command :: commands)
          | .newline | .endOfFile =>
              giveBack follower
              readRowOn inner row true steps (command :: commands)
          | _ =>
              if row = .line then Reader.unexpected follower none
              giveBack follower
              return rowCommand? (command :: commands)

mutual

/-- Reads commands in a row, in which commands stand in each other at most so deep. -/
def readRow : Nat → Row → Reader (Option Command)
  | 0, _ => Reader.fail "end of file unexpected"
  | depth + 1, row => do
      readRowOn ⟨readRow depth, readCommand depth⟩ row (row = .possible) (← Reader.steps) []

def readCommand : Nat → Reader Command
  | 0 => Reader.fail "end of file unexpected"
  | depth + 1 => readCommandWith ⟨readRow depth, readCommand depth⟩

end

def readNested : Reader (Option Command) := do readRow (← Reader.steps) .possible

def readFilledText : Reader Word := do
  return (← readPieces readNested (.document ⟨0, ['\x00'], true, false⟩)).1

inductive Line
  | ended
  | commands (command : Option Command)

def readLine : Reader Line := do
  modify fun source => { source with held := none }
  match ← readRow (← Reader.steps) .line with
  | some command => return .commands (some command)
  | none =>
      match (← get).held with
      | some .endOfFile => return .ended
      | _ => return .commands none

end AccessWeave.Shell
