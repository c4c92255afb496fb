import AccessWeave.Shell.Arithmetic
import AccessWeave.Shell.Fields
import AccessWeave.Shell.Matches
import AccessWeave.Shell.Variable

/-!
Filling in words: parameters, commands and arithmetic make way for what they stand for, a tilde
for the home directory. What comes from outside quotation marks can be divided into fields and
can be a pattern for paths; what comes from inside cannot.

Words stand in words, and commands do too. How those inside are filled in and run is given.
-/

namespace AccessWeave.Shell

structure Setting where
  /-- Whether the word becomes fields, so that parameters are kept apart. -/
  divides : Bool
  isQuoted : Bool
  startsTilde : Bool
  colonTilde : Bool
  /-- Whether the word stands for a parameter, so that it is divided like one. -/
  isValue : Bool
  deriving DecidableEq, Repr

namespace Setting

def field : Setting := ⟨true, false, true, false, false⟩

def single : Setting := ⟨false, false, true, false, false⟩

def assigned : Setting := ⟨false, false, true, true, false⟩

/-- A text in which only dollar signs and backquotes mean something. -/
def text : Setting := ⟨false, true, false, false, false⟩

def expression : Setting := ⟨false, false, false, false, false⟩

end Setting

structure Filler where
  fill : Setting → Word → Action (List Fragment)
  capture : Option Command → Action String

def State.plainParameter? (state : State) (name : String) : Option String :=
  match name with
  | "?" => some (toString state.status)
  | "#" => some (toString state.parameters.length)
  | "$" => some (toString state.shell)
  | "!" => state.lastBackground.map toString
  | "-" => some state.optionText
  | _ =>
      match name.toNat? with
      | some 0 => some state.name
      | some place => state.parameters[place - 1]?
      | none => state.value? name

/-- What stands between the parameters when all of them are asked for. -/
def State.between (state : State) (setting : Setting) (isQuoted : Bool) (name : String) :
    List Cell :=
  let joining : List Cell :=
    (state.separators.head?.map fun character => Cell.ofText isQuoted (String.singleton character))
      |>.getD []
  if setting.divides && (!isQuoted || name = "@") then [.gap] else joining

def State.parameter? (state : State) (setting : Setting) (isQuoted : Bool) (name : String) :
    Option (List Cell) :=
  if name = "@" || name = "*" then
    some ((List.intersperse (state.between setting isQuoted name)
      (state.parameters.map (Cell.ofText isQuoted))).flatten)
  else (state.plainParameter? name).map (Cell.ofText isQuoted)

def textToGap (cells : List Cell) : List Char :=
  (cells.takeWhile fun cell => cell ≠ .gap).filterMap Cell.character?

/-- Cells as they are looked at from the end, with a sign before those that are marked. -/
def spelledOut (cells : List Cell) : List Cell :=
  cells.flatMap fun cell => if cell.isMarked then [.literal Cell.markSign, cell] else [cell]

/-- How many cells are cut off at the end, when signs fit the end of a part of them between gaps:
the shortest end of the last part that has any. The cells are in reverse, and so are the
signs. -/
def shortestEnd (signs : List Pattern.Sign) (cells : List Cell) : Option Nat :=
  match (Pattern.lengths signs (textToGap cells)).getLast? with
  | some length => some length
  | none =>
      match _ : cells.dropWhile fun cell => cell ≠ .gap with
      | [] => none
      | _ :: others =>
          (shortestEnd signs others).map fun length => cells.length - others.length + length
termination_by cells.length
decreasing_by
  have shorter : (cells.dropWhile fun cell => decide (cell ≠ Cell.gap)).length ≤ cells.length :=
    (List.dropWhile_suffix _).length_le
  rename_i found
  rw [found] at shorter
  exact Nat.lt_of_succ_le shorter

/-- How far from the end the shortest end is cut off. If the first parameter has a mark, it is
looked at first, then the pattern itself, and then the others. -/
def shortestEndOf (pattern : List Char) (cells : List Cell) : Option Nat :=
  let first := cells.takeWhile fun cell => cell ≠ .gap
  let looked :=
    if first.any Cell.isMarked then
      spelledOut cells ++ .gap :: pattern.map Cell.plain ++ .gap :: first
    else spelledOut cells
  shortestEnd (Pattern.signs pattern).reverse looked.reverse

/-- How far from the end the longest start of the first parameter is cut off. If that parameter
has a mark, what is left of it is counted from the end of all, and if nothing of it fits, the
longest start of the pattern that fits all of it counts. -/
def longestStartOf (pattern : List Char) (cells : List Cell) : Option Nat :=
  let first := cells.takeWhile fun cell => cell ≠ .gap
  let text := textToGap first
  match (Pattern.lengths (Pattern.signs pattern) text).head? with
  | some length =>
      if length = first.length then some 0
      else if first.any Cell.isMarked then some (first.length - length)
      else some ((spelledOut cells).length - length)
  | none =>
      if first.any Cell.isMarked then
        (List.range pattern.length).reverse.findSome? fun length =>
          if Pattern.fits (pattern.take length) text then
            some (first.length + 1 + (pattern.length - length))
          else none
      else none

/-- Cuts the part off that a pattern fits, if there is one: at the start of the first parameter,
or at the end of one. -/
def trimmedBy (trim : Trim) (pattern : List Char) (cells : List Cell) : List Cell :=
  let signs := Pattern.signs pattern
  let first := textToGap cells
  let fromEnd (length? : Option Nat) (cut : Nat → List Cell) : List Cell :=
    match length? with
    | some length => if length ≤ cells.length then cut (cells.length - length) else cells
    | none => cells
  match trim with
  | ⟨true, false⟩ =>
      match (Pattern.lengths signs first).getLast? with
      | some length => cells.drop length
      | none => cells
  | ⟨true, true⟩ => fromEnd (longestStartOf pattern cells) cells.drop
  | ⟨false, false⟩ => fromEnd (shortestEndOf pattern cells) cells.take
  | ⟨false, true⟩ =>
      match (Pattern.lengths signs.reverse first.reverse).head? with
      | some length => cells.take (first.length - length)
      | none => cells

/-- The fragment that a parameter makes. Between quotation marks only all parameters together
are divided. -/
def State.parameterFragment (state : State) (isQuoted : Bool) (name : String)
    (cells : List Cell) : Fragment :=
  if isQuoted = false then ⟨.atSeparators, cells⟩
  else if name = "@" && !state.parameters.isEmpty then ⟨.atGaps, cells⟩
  else .whole cells

namespace Filling

def unsetComplaint (name : String) (emptyCounts : Bool) (text : Option String) : String :=
  name ++ ": " ++ match text with
    | some text => text
    | none => "parameter not set" ++ if emptyCounts then " or null" else ""

def demand (name : String) (cells : Option (List Cell)) : Action Unit := do
  if cells.isNone && (← get).hasOption "nounset" then
    Action.fail (unsetComplaint name false none)

def textOf (filler : Filler) (setting : Setting) (word : Word) : Action String := do
  return Cell.text (Fragment.cellsOf (← filler.fill setting word))

def parameter (filler : Filler) (setting : Setting) (isQuoted : Bool) (name : String)
    (use : Use) (emptyCounts : Bool) (word : Word) : Action (List Fragment) := do
  let state ← get
  let found := state.parameter? setting isQuoted name
  let value := if emptyCounts then found.filter fun cells => !cells.isEmpty else found
  let inserted (cells : List Cell) : List Fragment :=
    [state.parameterFragment isQuoted name cells]
  let inner : Setting := { setting with startsTilde := true, isQuoted, isValue := true }
  match use, value with
  | .malformed, _ => Action.fail "Bad substitution"
  | .value, _ =>
      demand name value
      return inserted (value.getD [])
  | .orWord, some cells => return inserted cells
  | .orWord, none => filler.fill inner word
  | .wordInstead, some _ => filler.fill inner word
  | .wordInstead, none => return []
  | .orAssign, some cells => return inserted cells
  | .orAssign, none =>
      let text ← textOf filler { inner with divides := false, isValue := false } word
      Action.setVariable name text
      return inserted (((← get).parameter? setting isQuoted name).getD [])
  | .orComplain, some cells => return inserted cells
  | .orComplain, none =>
      if word.isEmpty then Action.fail (unsetComplaint name emptyCounts none)
      let text ← textOf filler { inner with divides := false, isValue := false } word
      Action.fail (unsetComplaint name emptyCounts (some text))
  | .length, _ =>
      demand name found
      let count := (found.getD []).length
      return inserted (Cell.ofText isQuoted (toString count))
  | .trimmed trim, _ =>
      demand name found
      match found with
      | none => return []
      | some cells =>
          let fragments ← filler.fill Setting.single word
          let pattern := Cell.pattern (Fragment.cellsOf fragments)
          return inserted (trimmedBy trim pattern cells)

def scope (expression : String) : Arithmetic.Scope Action where
  value name := do
    let text := ((← get).value? name).getD ""
    match wholeNumber? false text with
    | some value => return value
    | none => Action.illegalNumber text
  assign name value := Action.setVariable name (toString value.toInt)
  fail fault := do
    let about (complaint : String) : String :=
      "arithmetic expression: " ++ complaint ++ ": \"" ++ expression ++ "\""
    match fault with
    | .expecting what => Action.fail (about ("expecting " ++ what))
    | .divisionByZero => Action.fail (about "division by zero")
    | .overflow => throw (.ends (.signaled Signal.arithmeticFault))

def arithmetic (filler : Filler) (expression : Word) : Action String := do
  let text ← textOf filler .expression expression
  let value ← Arithmetic.evaluate (scope text) text
  return toString value.toInt

def withoutLineEnds (text : String) : String :=
  String.ofList (text.toList.reverse.dropWhile (· = '\n')).reverse

def home? (state : State) (name : String) : Option String :=
  if name = "" then state.value? "HOME"
  else if name = "root" then some "/root"
  else none

/-- The name after a tilde, if it is plain up to its end, and what follows it. -/
def tildeName? (colonEnds : Bool) : Word → Option (List Char × Word)
  | [] => some ([], [])
  | .plain character :: rest =>
      if character = '/' || (colonEnds && character = ':') then
        some ([], .plain character :: rest)
      else (tildeName? colonEnds rest).map fun (name, after) => (character :: name, after)
  | _ => none

def tilde? (state : State) (setting : Setting) (word : Word) :
    Option (Fragment × Word) :=
  match word with
  | .plain '~' :: rest => do
      let (name, after) ← tildeName? setting.colonTilde rest
      let home ← home? state (String.ofList name)
      some (.whole (Cell.ofText true home), after)
  | _ => none

/-- The plain characters at the start of a word, up to one after which a tilde can stand, and
what follows them. -/
def plainRun (colonEnds : Bool) : Word → List Char × Word
  | .plain character :: rest =>
      if colonEnds && character = ':' then ([character], rest)
      else
        let (others, after) := plainRun colonEnds rest
        (character :: others, after)
  | rest => ([], rest)

def plainFragment (setting : Setting) (isQuoted : Bool) (characters : List Char) : Fragment :=
  if isQuoted then .whole (characters.map .literal)
  else ⟨if setting.isValue then .atSeparators else .never, characters.map .plain⟩

def piece (filler : Filler) (setting : Setting) (isQuoted : Bool) :
    Piece → Action (List Fragment)
  | .plain character => return [plainFragment setting isQuoted [character]]
  | .quoted character => return [.whole [.literal character]]
  | .mark => return [.whole [.mark]]
  | .parameter name use emptyCounts word =>
      parameter filler setting isQuoted name use emptyCounts word
  | .substitution body => do
      let text := withoutLineEnds (← filler.capture body)
      let division := if isQuoted then Division.never else .atSeparators
      return [⟨division, Cell.ofText isQuoted text⟩]
  | .arithmetic expression => do
      let text ← arithmetic filler expression
      let division := if isQuoted then Division.never else .atSeparators
      return [⟨division, Cell.ofText isQuoted text⟩]

/-- Fills in the pieces of a word, within as many steps as there are pieces. A tilde counts
where `atTilde` tells. All parameters between quotation marks of their own leave no mark. With
the word after a parameter and a colon alone everything ends. -/
def pieces (filler : Filler) (setting : Setting) :
    Nat → Bool → Bool → Word → Action (List Fragment)
  | 0, _, _, _ => return []
  | _, _, _, [] => return []
  | steps + 1, inQuotes, atTilde, first :: rest => do
      let isQuoted := setting.isQuoted || inQuotes
      let state ← get
      let found := if atTilde && !isQuoted then tilde? state setting (first :: rest) else none
      match found with
      | some (home, after) =>
          return home :: (← pieces filler setting steps inQuotes false after)
      | none =>
          match inQuotes, first, rest with
          | false, .mark, .parameter "@" .value false [] :: .mark :: after =>
              let head ← parameter filler setting true "@" .value false []
              return head ++ (← pieces filler setting steps false false after)
          | _, .mark, _ =>
              let others ← pieces filler setting steps (!inQuotes) false rest
              return .whole [.mark] :: others
          | _, .plain character, _ =>
              let colonEnds := setting.colonTilde
              let (others, after) :=
                if colonEnds && character = ':' then ([], rest) else plainRun colonEnds rest
              let run := character :: others
              let opensTilde := colonEnds && run.getLast? = some ':'
              let later ← pieces filler setting steps inQuotes opensTilde after
              return plainFragment setting isQuoted run :: later
          | _, .parameter _ .value true inner, _ =>
              let head ← piece filler setting isQuoted first
              return head ++ (← filler.fill { setting with isQuoted, startsTilde := false } inner)
          | _, _, _ =>
              let head ← piece filler setting isQuoted first
              return head ++ (← pieces filler setting steps inQuotes false rest)

def word (filler : Filler) (setting : Setting) (word : Word) : Action (List Fragment) :=
  pieces filler setting (word.length + 1) false setting.startsTilde word

/-- The paths that a field fits as a pattern, or else its text. -/
def fieldTexts (state : State) (cells : List Cell) : List String :=
  let found :=
    if state.hasOption "noglob" then [] else Matches.paths state.tree (Cell.pattern cells)
  if found.isEmpty then [Cell.text cells] else found

end Filling

namespace Filler

def fields (filler : Filler) (word : Word) : Action (List String) := do
  let fragments ← filler.fill .field word
  let state ← get
  return (fieldsOf state.separators none fragments).flatMap (Filling.fieldTexts state)

def text (filler : Filler) (setting : Setting) (word : Word) : Action String :=
  Filling.textOf filler setting word

def pattern (filler : Filler) (word : Word) : Action (List Char) := do
  return Cell.pattern (Fragment.cellsOf (← filler.fill .single word))

end Filler

end AccessWeave.Shell
