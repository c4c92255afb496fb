import AccessWeave.Shell.Grammar
import AccessWeave.Shell.Numeral

/-!
Arithmetic on numbers of sixty-four bits. The operators are those of common use, with
assignments that give the value assigned. An operand that does not decide is read but not
evaluated. Every fault is found where evaluation from left to right comes to it.

What a variable is worth, and what becomes of assignments and faults, is the matter of a scope.
-/

namespace AccessWeave.Shell.Arithmetic

inductive Token
  | number (value : Int64)
  | name (text : String)
  | operator (text : String)
  | unknown
  deriving DecidableEq, Repr

/-- The operators, longer ones before those that they begin with. -/
def operators : List String :=
  ["<<=", ">>=", "<<", ">>", "<=", ">=", "==", "!=", "&&", "||", "+=", "-=", "*=", "/=", "%=",
   "&=", "^=", "|=", "+", "-", "*", "/", "%", "<", ">", "=", "&", "^", "|", "!", "~", "?", ":",
   "(", ")"]

def operator? (text : List Char) : Option (String × List Char) :=
  operators.findSome? fun operator =>
    (operator.toList.isPrefixOf? text).map fun rest => (operator, rest)

/-- The tokens of an expression, up to the first character that begins none. -/
def tokens : Nat → List Char → List Token
  | 0, _ => []
  | _, [] => []
  | steps + 1, first :: rest =>
      if first = ' ' || first = '\t' || first = '\n' then tokens steps rest
      else if first.isDigit then
        let numeral := Numeral.scanned false (first :: rest)
        .number numeral.nearest :: tokens steps numeral.rest
      else if isNameStart first then
        .name (String.ofList (first :: rest.takeWhile isNameLetter))
          :: tokens steps (rest.dropWhile isNameLetter)
      else match operator? (first :: rest) with
        | some (operator, after) => .operator operator :: tokens steps after
        | none => [.unknown]

def ofText (text : String) : List Token := tokens (text.length + 1) text.toList

/-- How tightly an operator with two operands binds. The loosest is zero. -/
def binding? : String → Option Nat
  | "|" => some 0
  | "^" => some 1
  | "&" => some 2
  | "==" => some 3
  | "!=" => some 3
  | "<" => some 4
  | "<=" => some 4
  | ">" => some 4
  | ">=" => some 4
  | "<<" => some 5
  | ">>" => some 5
  | "+" => some 6
  | "-" => some 6
  | "*" => some 7
  | "/" => some 7
  | "%" => some 7
  | _ => none

/-- The operator that an assignment applies to the value before it, if any. -/
def assigning? : String → Option (Option String)
  | "=" => some none
  | "+=" => some (some "+")
  | "-=" => some (some "-")
  | "*=" => some (some "*")
  | "/=" => some (some "/")
  | "%=" => some (some "%")
  | "<<=" => some (some "<<")
  | ">>=" => some (some ">>")
  | "&=" => some (some "&")
  | "^=" => some (some "^")
  | "|=" => some (some "|")
  | _ => none

inductive Fault
  | expecting (what : String)
  | divisionByZero
  /-- A quotient that is too large, which stops the program. -/
  | overflow
  deriving DecidableEq, Repr

def ofBool (condition : Bool) : Int64 := if condition then 1 else 0

def apply (operator : String) (left right : Int64) : Except Fault Int64 :=
  match operator with
  | "|" => .ok (left ||| right)
  | "^" => .ok (left ^^^ right)
  | "&" => .ok (left &&& right)
  | "==" => .ok (ofBool (left == right))
  | "!=" => .ok (ofBool (left != right))
  | "<" => .ok (ofBool (left < right))
  | "<=" => .ok (ofBool (left ≤ right))
  | ">" => .ok (ofBool (right < left))
  | ">=" => .ok (ofBool (right ≤ left))
  | "<<" => .ok (left <<< right)
  | ">>" => .ok (left >>> right)
  | "+" => .ok (left + right)
  | "-" => .ok (left - right)
  | "*" => .ok (left * right)
  | _ =>
      if right = 0 then .error .divisionByZero
      else if left = Int64.minValue && right = -1 then .error .overflow
      else .ok (if operator = "/" then left / right else left % right)

structure Scope (Effect : Type → Type) where
  value : String → Effect Int64
  assign : String → Int64 → Effect Unit
  fail : {Result : Type} → Fault → Effect Result

section Evaluation

variable {Effect : Type → Type} [Monad Effect] (scope : Scope Effect)

abbrev Evaluating (Effect : Type → Type) (Result : Type) := StateT (List Token) Effect Result

def peek : Evaluating Effect (Option Token) := return (← get).head?

def drop : Evaluating Effect Unit := modify List.tail

def applied (operator : String) (left right : Int64) : Evaluating Effect Int64 :=
  match apply operator left right with
  | .ok value => pure value
  | .error fault => (scope.fail fault : Effect Int64)

def valueOf (counts : Bool) (name : String) : Evaluating Effect Int64 :=
  if counts then (scope.value name : Effect Int64) else pure 0

def close (operator : String) : Evaluating Effect Unit := do
  if (← peek) = some (.operator operator) then drop
  else scope.fail (.expecting ("'" ++ operator ++ "'"))

mutual

/-- An operand: a number, a name, or an expression in parentheses, with signs in front. -/
def operand : Nat → Bool → Evaluating Effect Int64
  | 0, _ => scope.fail (.expecting "primary")
  | steps + 1, counts => do
      let token ← peek
      drop
      match token with
      | some (.number value) => return value
      | some (.name name) => valueOf scope counts name
      | some (.operator "(") =>
          let value ← expression steps counts
          close scope ")"
          return value
      | some (.operator "+") => operand steps counts
      | some (.operator "-") => return -(← operand steps counts)
      | some (.operator "!") => return ofBool ((← operand steps counts) == 0)
      | some (.operator "~") => return ~~~(← operand steps counts)
      | _ => scope.fail (.expecting "primary")

/-- What follows a left operand, as far as it binds at least as tightly as told. -/
def following : Nat → Bool → Nat → Int64 → Evaluating Effect Int64
  | 0, _, _, left => return left
  | steps + 1, counts, tightness, left => do
      match ← peek with
      | some (.operator operator) =>
          match binding? operator with
          | none => return left
          | some strength =>
              if strength < tightness then return left
              else
                drop
                let first ← operand steps counts
                let right ← following steps counts (strength + 1) first
                let value ← if counts then applied scope operator left right else pure right
                following steps counts tightness value
      | _ => return left

def conjunction : Nat → Bool → Evaluating Effect Int64
  | 0, _ => scope.fail (.expecting "primary")
  | steps + 1, counts => do
      let left ← following steps counts 0 (← operand steps counts)
      if (← peek) = some (.operator "&&") then
        drop
        let right ← conjunction steps (counts && left != 0)
        return ofBool (left != 0 && right != 0)
      return left

def disjunction : Nat → Bool → Evaluating Effect Int64
  | 0, _ => scope.fail (.expecting "primary")
  | steps + 1, counts => do
      let left ← conjunction steps counts
      if (← peek) = some (.operator "||") then
        drop
        let right ← disjunction steps (counts && left == 0)
        return ofBool (left != 0 || right != 0)
      return left

def choice : Nat → Bool → Evaluating Effect Int64
  | 0, _ => scope.fail (.expecting "primary")
  | steps + 1, counts => do
      let test ← disjunction steps counts
      if (← peek) = some (.operator "?") then
        drop
        let first ← expression steps (counts && test != 0)
        close scope ":"
        let second ← choice steps (counts && test == 0)
        return if test != 0 then first else second
      return test

def expression : Nat → Bool → Evaluating Effect Int64
  | 0, _ => scope.fail (.expecting "primary")
  | steps + 1, counts => do
      match ← get with
      | .name name :: .operator operator :: rest =>
          match assigning? operator with
          | none => choice steps counts
          | some combining =>
              set rest
              let right ← expression steps counts
              if counts then
                let value ← match combining with
                  | none => pure right
                  | some operator => applied scope operator (← scope.value name) right
                scope.assign name value
                return value
              return right
      | _ => choice steps counts

end

def evaluate (text : String) : Effect Int64 := do
  let tokens := ofText text
  let (value, rest) ← (expression scope (8 * tokens.length + 8) true).run tokens
  if rest.isEmpty then return value
  else scope.fail (.expecting "EOF")

end Evaluation

end AccessWeave.Shell.Arithmetic
