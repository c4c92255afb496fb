import AccessWeave.Host.Tree
import AccessWeave.Shell.Numeral
import AccessWeave.Text.Octets

/-!
Conditions on texts, numbers and files. A condition is read from words: operators with one or
two operands, negation, both, either, and parentheses. A word that could be an operator is an
operand where nothing else makes sense.
-/

namespace AccessWeave.Shell.Condition

inductive Kind
  | unary
  | binary
  | negation
  | both
  | either
  | opening
  | closing
  deriving DecidableEq, Repr

def unaryOperators : List String :=
  ["-r", "-w", "-x", "-e", "-f", "-d", "-c", "-b", "-p", "-u", "-g", "-k", "-s", "-t", "-z",
   "-n", "-h", "-O", "-G", "-L", "-S"]

def binaryOperators : List String :=
  ["=", "!=", "<", ">", "-eq", "-ne", "-ge", "-gt", "-le", "-lt", "-nt", "-ot", "-ef"]

def kind? (word : String) : Option Kind :=
  if word ∈ unaryOperators then some .unary
  else if word ∈ binaryOperators then some .binary
  else match word with
    | "!" => some .negation
    | "-a" => some .both
    | "-o" => some .either
    | "(" => some .opening
    | ")" => some .closing
    | _ => none

/-- Whether an operator with one operand is an operand itself because of what follows it. -/
def isOperand : List String → Bool
  | [] => true
  | [_] => false
  | next :: _ :: _ => kind? next = some .binary

inductive Role
  | nothing
  | operand
  | operator (kind : Kind)
  deriving DecidableEq, Repr

def role : List String → Role
  | [] => .nothing
  | word :: others =>
      match kind? word with
      | none => .operand
      | some .unary => if isOperand others then .operand else .operator .unary
      | some .opening => if others.isEmpty then .operand else .operator .opening
      | some kind => .operator kind

abbrev Judged := Except String

def complaint (word text : String) : String := if word = "" then text else word ++ ": " ++ text

def number (text : String) : Judged Int64 :=
  match wholeNumber? true text with
  | some number => .ok number
  | none => .error ("Illegal number: " ++ text)

def isLink (tree : Tree) (path : Path) : Bool :=
  match path.fileName? with
  | none => false
  | some name =>
      let around := (path.parent?.map Path.text).getD ""
      match tree.locate ⟨if around = "" then "." else around⟩ with
      | .error _ => false
      | .ok location => (tree.linkAt? (location ++ [name])).isSome

def entryAt? (tree : Tree) (text : String) : Option Entry :=
  (tree.lookup ⟨Text.ofOctets text⟩).toOption

def isFilled : Entry → Bool
  | .file bytes => !bytes.isEmpty
  | .device _ => false
  | .output _ => false
  | _ => true

def holdsOfOne (tree : Tree) (operator operand : String) : Judged Bool :=
  let entry := entryAt? tree operand
  match operator with
  | "-z" => .ok (operand = "")
  | "-n" => .ok (operand ≠ "")
  | "-t" => (number operand).map fun _ => false
  | "-f" => .ok (tree.isFile ⟨Text.ofOctets operand⟩)
  | "-d" => .ok (entry = some .directory)
  | "-c" =>
      .ok (match entry with
        | some (.device _) => true
        | _ => false)
  | "-p" =>
      .ok (match entry with
        | some (.output _) => true
        | _ => false)
  | "-s" => .ok ((entry.map isFilled).getD false)
  | "-x" =>
      .ok (match entry with
        | some .directory => true
        | some (.program _) => true
        | _ => false)
  | "-h" => .ok (isLink tree ⟨Text.ofOctets operand⟩)
  | "-L" => .ok (isLink tree ⟨Text.ofOctets operand⟩)
  | _ => .ok (entry.isSome && operator ∈ ["-r", "-w", "-e", "-O", "-G"])

def areSame (tree : Tree) (left right : String) : Bool :=
  (entryAt? tree left).isSome && (entryAt? tree right).isSome
    && (tree.locate ⟨Text.ofOctets left⟩).toOption = (tree.locate ⟨Text.ofOctets right⟩).toOption

/-- A condition on two operands. Files have no age. -/
def holdsOfTwo (tree : Tree) (operator left right : String) : Judged Bool :=
  match operator with
  | "=" => .ok (left = right)
  | "!=" => .ok (left ≠ right)
  | "<" => .ok (left < right)
  | ">" => .ok (right < left)
  | "-ef" => .ok (areSame tree left right)
  | "-nt" => .ok false
  | "-ot" => .ok false
  | _ => do
      let first ← number left
      let second ← number right
      match operator with
      | "-eq" => .ok (first == second)
      | "-ne" => .ok (first != second)
      | "-ge" => .ok (second ≤ first)
      | "-gt" => .ok (second < first)
      | "-le" => .ok (first ≤ second)
      | _ => .ok (first < second)

/-- What was found, and the words from the last one that was used on. -/
abbrev Found := Judged (Bool × List String)

/-- A condition on operands that is not in parentheses, or an operand alone. -/
def simple (tree : Tree) (asUnary : Bool) (words : List String) : Found :=
  match asUnary, words with
  | true, operator :: operand :: rest =>
      (holdsOfOne tree operator operand).map fun holds => (holds, operand :: rest)
  | true, [operator] => .error (complaint operator "argument expected")
  | _, left :: operator :: rest =>
      if kind? operator = some .binary then
        match rest with
        | [] => .error (complaint operator "argument expected")
        | right :: others =>
            (holdsOfTwo tree operator left right).map fun holds => (holds, right :: others)
      else .ok (left ≠ "", words)
  | _, [word] => .ok (word ≠ "", words)
  | _, [] => .ok (false, [])

mutual

def primary (tree : Tree) : Nat → Role → List String → Found
  | 0, _, words => .ok (false, words)
  | _, .nothing, words => .ok (false, words)
  | steps + 1, .operator .opening, words =>
      let inside := words.tail
      if role inside = .operator .closing then .ok (false, inside)
      else do
        let (holds, rest) ← disjunction tree steps (role inside) inside
        if role rest.tail = .operator .closing then .ok (holds, rest.tail)
        else .error "closing paren expected"
  | _, .operator .unary, words => simple tree true words
  | _, _, words => simple tree false words

def negation (tree : Tree) : Nat → Role → List String → Found
  | 0, _, words => .ok (false, words)
  | steps + 1, .operator .negation, words => do
      let next := role words.tail
      let (holds, rest) ←
        negation tree steps next (if next = .nothing then words else words.tail)
      .ok (!holds, rest)
  | steps + 1, first, words => primary tree steps first words

def conjunction (tree : Tree) : Nat → Role → List String → Found
  | 0, _, words => .ok (false, words)
  | steps + 1, first, words => do
      let (holds, rest) ← negation tree steps first words
      if role rest.tail = .operator .both then
        let after := rest.drop 2
        let (others, rest) ← conjunction tree steps (role after) after
        .ok (holds && others, rest)
      else .ok (holds, rest)

def disjunction (tree : Tree) : Nat → Role → List String → Found
  | 0, _, words => .ok (false, words)
  | steps + 1, first, words => do
      let (holds, rest) ← conjunction tree steps first words
      if role rest.tail = .operator .either then
        let after := rest.drop 2
        let (others, rest) ← disjunction tree steps (role after) after
        .ok (holds || others, rest)
      else .ok (holds, rest)

end

def whole (tree : Tree) (first : Role) (words : List String) : Judged Bool := do
  let (holds, rest) ← disjunction tree (4 * words.length + 8) first words
  match rest with
  | word :: _ :: _ => .error (complaint word "unexpected operator")
  | _ => .ok holds

def areEnclosed (words : List String) : Bool :=
  words.head? = some "(" && words.getLast? = some ")"

/-- Whether negations stand in front of three or four words, and the condition that the words
spell without them. Few words are read by their number. -/
def withoutNegations (tree : Tree) : Nat → List String → Bool × Judged Bool
  | 0, _ => (false, .ok false)
  | steps + 1, words =>
      let enclosed := words.tail.dropLast
      let isShort := words.length = 3 || words.length = 4
      if words.length = 3 && (words[1]?.bind kind?) = some .binary then
        (false, whole tree .operand words)
      else if isShort && areEnclosed words then (false, whole tree (role enclosed) enclosed)
      else if isShort && words.head? = some "!" then
        (true, (withoutNegations tree steps words.tail).2)
      else (false, whole tree (role words) words)

/-- Whether the condition that words spell holds. Without words none does. However many negations
stand in front of few words, they count as one. -/
def holds (tree : Tree) (words : List String) : Judged Bool :=
  if words.isEmpty then .ok false
  else
    let (isNegated, held) := withoutNegations tree (words.length + 1) words
    held.map fun holds => holds != isNegated

/-- The condition of a command, which may have a bracket to close. -/
def judged (tree : Tree) (name : String) (words : List String) : Judged Bool :=
  if name ≠ "[" then holds tree words
  else match words.getLast? with
    | some last =>
        if last.toList.head? = some ']' then holds tree words.dropLast
        else .error "missing ]"
    | none => .error "missing ]"

end AccessWeave.Shell.Condition
