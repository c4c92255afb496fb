import AccessWeave.Shell.Builtin.Letters
import AccessWeave.Shell.Finding

/-!
Builtins that tell what names stand for, and those that set aliases.
-/

namespace AccessWeave.Shell.Builtin

structure Description where
  words : String
  brief : String
  deriving DecidableEq, Repr

def drawer (count : Nat) (name : String) : Nat :=
  let bytes := name.toList.map Char.toNat
  (bytes.headD 0 * 16 + bytes.foldl (· + ·) 0) % count

/-- Entries as they are shown: drawer after drawer, in each of them the first one first. -/
def byDrawers {Content : Type} (count : Nat) (entries : List (String × Content)) :
    List (String × Content) :=
  (List.range count).flatMap fun number =>
    entries.filter fun entry => drawer count entry.1 = number

/-- Entries with one of them put in: at its old place, or at the end. -/
def putEntry {Content : Type} (name : String) (content : Content)
    (entries : List (String × Content)) : List (String × Content) :=
  if (entries.lookup name).isSome then
    entries.map fun entry => if entry.1 = name then (name, content) else entry
  else entries ++ [(name, content)]

def track (name path : String) : Action Unit := modify fun state =>
  { state with tracked := putEntry name ⟨path, false⟩ state.tracked }

def untrack (name : String) : Action Unit := modify fun state =>
  { state with tracked := state.tracked.filter fun entry => entry.1 ≠ name }

def describe? (places : Option (List String)) (name : String) :
    Action (Option Description) := do
  let state ← get
  if name ∈ keywords then return some ⟨name ++ " is a shell keyword", name⟩
  if let some value := state.aliases.lookup name then
    return some ⟨name ++ " is an alias for " ++ value, "alias " ++ name ++ "=" ++ quoted value⟩
  match state.meaning false name with
  | .function _ => return some ⟨name ++ " is a shell function", name⟩
  | .builtin =>
      let kind := if name ∈ specialBuiltins then " is a special shell builtin"
        else " is a shell builtin"
      return some ⟨name ++ kind, name⟩
  | .program =>
      if '/' ∈ name.toList then
        if state.tree.holds ⟨Text.ofOctets name⟩ then
          return some ⟨name ++ " is " ++ name, name⟩
        return none
      match placeOf state.tree name (places.getD state.places) with
      | .found path _ =>
          let isTracked := (state.tracked.lookup name).isSome
          if places.isNone && !isTracked then track name path
          let link := if isTracked then " is a tracked alias for " else " is "
          return some ⟨name ++ link ++ path, path⟩
      | _ => return none

def describe (places : Option (List String)) (isBrief : Bool) (name : String) : Action Nat := do
  match ← describe? places name with
  | some description =>
      Action.emit ((if isBrief then description.brief else description.words) ++ "\n")
      return 0
  | none =>
      if !isBrief then Action.emit (name ++ ": not found\n")
      return 127

def types : List String → Action Nat
  | [] => return 0
  | name :: names => do
      let status ← describe none false name
      let later ← types names
      return status ||| later

def describeCommand (words : List String) : Action Nat := do
  let (given, rest) ← letters [('p', false), ('v', false), ('V', false)] words
  let places := if given.any fun entry => entry.1 = 'p' then some (placesIn usualPlaces) else none
  let asked := given.filter fun entry => entry.1 ≠ 'p'
  match rest, asked.isEmpty with
  | name :: _, false =>
      describe places (asked.all fun entry => entry.1 = 'v') name
  | _, _ => return 0

/-- Notes where a program is, if a name means one; why there is none, if that is so. -/
def trackMeaning (name : String) : Action (Option Place) := do
  let state ← get
  match state.meaning false name, placeOf state.tree name state.places with
  | .program, .found path _ => do
      track name path
      return none
  | .program, place => return some place
  | _, _ => return none

def trackAll : List String → Action Nat
  | [] => return 0
  | name :: names => do
      untrack name
      let status ← match ← trackMeaning name with
        | none => pure 0
        | some place => do
            Action.complain (name ++ ": " ++ place.complaint)
            pure 1
      let later ← trackAll names
      return max status later

def trackedDrawers : Nat := 31

def showTracked (state : State) : String :=
  String.join ((byDrawers trackedDrawers state.tracked).map fun (_, tracked) =>
    tracked.path ++ (if tracked.isOld then "*" else "") ++ "\n")

def hash (words : List String) : Action Nat := do
  let (given, names) ← letters [('r', false)] words
  if !given.isEmpty then
    modify fun state => { state with tracked := [] }
    return 0
  if names.isEmpty then Action.emit (showTracked (← get))
  trackAll names

def showAlias (name value : String) : Action Unit :=
  Action.emit (name ++ "=" ++ quoted value ++ "\n")

/-- A name and the text it is to stand for. The first character of a name can be anything. -/
def aliasAssignment? (word : String) : Option (String × String) :=
  match word.toList with
  | [] => none
  | first :: rest =>
      match rest.dropWhile (· ≠ '=') with
      | [] => none
      | _ :: value =>
          some (String.ofList (first :: rest.takeWhile (· ≠ '=')), String.ofList value)

def setAliases : List String → Action Nat
  | [] => return 0
  | word :: words => do
      let status ← match aliasAssignment? word with
        | some (name, value) => do
            modify fun state => { state with aliases := putEntry name value state.aliases }
            pure 0
        | none => do
            match (← get).aliases.lookup word with
            | some value => do
                showAlias word value
                pure 0
            | none => do
                Action.write 2 ("alias: " ++ word ++ " not found\n")
                pure 1
      let later ← setAliases words
      return max status later

def aliasDrawers : Nat := 39

def aliases (words : List String) : Action Nat := do
  if words.isEmpty then
    (byDrawers aliasDrawers (← get).aliases).forM fun (name, value) => showAlias name value
  setAliases words

def dropAliases : List String → Action Nat
  | [] => return 0
  | name :: names => do
      let isThere := ((← get).aliases.lookup name).isSome
      if !isThere then Action.write 2 ("unalias: " ++ name ++ " not found\n")
      modify fun state =>
        { state with aliases := state.aliases.filter fun entry => entry.1 ≠ name }
      let later ← dropAliases names
      return if isThere then later else 1

def unalias (words : List String) : Action Nat := do
  let (given, names) ← letters [('a', false)] words
  if !given.isEmpty then
    modify fun state => { state with aliases := [] }
    return 0
  dropAliases names

end AccessWeave.Shell.Builtin
