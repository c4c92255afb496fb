import AccessWeave.Shell.Engine
import AccessWeave.Shell.Finding

/-!
Which of a command's words is its name. The word command in front of a name passes over functions
and can tell to look for programs in the usual places. Words are filled in one after the other up
to the name, because the name decides how those after it are filled in.
-/

namespace AccessWeave.Shell

structure Heading where
  /-- The words from the name on, as far as they are filled in. -/
  words : List String
  isFound : Bool
  skipsFunctions : Bool
  usesUsualPlaces : Bool
  deriving DecidableEq, Repr

namespace Heading

def start : Heading := ⟨[], false, false, false⟩

inductive Remark
  | endsOptions
  | usualPlaces
  | question
  deriving DecidableEq, Repr

def remark? (word : String) : Option Remark :=
  match word.toList with
  | ['-', '-'] => some .endsOptions
  | '-' :: letter :: letters =>
      if (letter :: letters).all (· = 'p') then some .usualPlaces else some .question
  | _ => none

def isBuiltinName (state : State) (skipsFunctions : Bool) (name : String) : Bool :=
  match state.meaning skipsFunctions name with
  | .builtin => true
  | _ => false

/-- Looks for the name among words, of which the first may be a remark. -/
def among (state : State) (heading : Heading) (mayRemark : Bool) : List String → Heading
  | [] => heading
  | word :: rest =>
      match if mayRemark then remark? word else none with
      | some .endsOptions => among state heading false rest
      | some .usualPlaces => among state { heading with usesUsualPlaces := true } true rest
      | some .question => { heading with isFound := true }
      | none =>
          let found := { heading with words := word :: rest }
          if word = "command" && isBuiltinName state heading.skipsFunctions word then
            among state { found with skipsFunctions := true } true rest
          else { found with isFound := true }

/-- Fills in words up to the name: what has been filled in, the heading in it, and the words that
are left. -/
def fillIn (filler : Filler) (known : List String) :
    List Word → Action (List String × Heading × List Word)
  | [] => return (known, among (← get) .start false known, [])
  | word :: left => do
      let heading := among (← get) .start false known
      if heading.isFound then return (known, heading, word :: left)
      fillIn filler (known ++ (← filler.fields word)) left

end Heading

structure Summons where
  remarks : List String
  words : List String
  meaning : Meaning
  /-- Whether errors end the shell and assignments stay. -/
  isSpecial : Bool
  usesUsualPlaces : Bool

namespace Summons

def isScoped (summons : Summons) : Bool := !summons.words.isEmpty && !summons.isSpecial

def isReplacement (summons : Summons) : Bool :=
  match summons.meaning with
  | .builtin => summons.words.head? = some "exec"
  | _ => false

/-- Fills in a word after the name. Assignments stay one word where the name asks for them. -/
def fillRest (filler : Filler) (assigns : Bool) (word : Word) : Action (List String) := do
  match if assigns then Word.assignment? word else none with
  | some (name, value) => return [name ++ "=" ++ (← filler.text .assigned value)]
  | none => filler.fields word

def fillAll (filler : Filler) (assigns : Bool) : List Word → Action (List String)
  | [] => return []
  | word :: words => do
      let first ← fillRest filler assigns word
      return first ++ (← fillAll filler assigns words)

/-- Fills in the words of a command. The first of them tells whether it is special. -/
def ofWords (filler : Filler) (words : List Word) : Action Summons := do
  let (known, heading, left) ← Heading.fillIn filler [] words
  let state ← get
  let name := heading.words.head?.getD ""
  let meaning := if heading.words.isEmpty then .builtin else
    state.meaning heading.skipsFunctions name
  let isHere := Heading.isBuiltinName state heading.skipsFunctions name
  let rest ← fillAll filler (isHere && name ∈ assigningBuiltins) left
  return {
    remarks := known.take (known.length - heading.words.length)
    words := heading.words ++ rest
    meaning
    isSpecial := isHere && !heading.skipsFunctions && name ∈ specialBuiltins
    usesUsualPlaces := heading.usesUsualPlaces }

end Summons

end AccessWeave.Shell
