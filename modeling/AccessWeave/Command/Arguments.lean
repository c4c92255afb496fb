/-!
Words of a command line. What a word means depends on the level of commands at which it
stands: the options that the level knows, the commands below it, and how the rest is read.
Long options begin with two hyphens and short ones, which may be joined, with one; a value
is attached to its option or is the next word. Two hyphens alone end the options. At a level
with a tail, all words from the first that is no option on are taken as they are.
-/

namespace AccessWeave

/-- How often an option may be given, and whether a value comes with it. -/
inductive OptionShape
  /-- At most once, without a value. -/
  | switch
  /-- At most once, with a value. -/
  | single
  /-- Any number of times, with a value each time. -/
  | repeated
  deriving DecidableEq, Repr

structure OptionForm where
  long : String
  short : Option Char
  shape : OptionShape
  deriving DecidableEq, Repr

def OptionForm.takesValue (form : OptionForm) : Bool := form.shape ≠ .switch

structure CommandLevel where
  options : List OptionForm
  commands : List String
  /-- Whether words are taken as they are once one is no option. -/
  hasTail : Bool
  deriving DecidableEq, Repr

structure Setting where
  name : String
  value : Option String
  deriving DecidableEq, Repr

inductive WordMeaning
  | ordinary
  | settings (settings : List Setting)
  /-- Options of which the last waits for its value. -/
  | awaiting (settings : List Setting) (name : String)
  | ending
  /-- Looks like an option, and the level knows none of this name or form. -/
  | unknown
  deriving DecidableEq, Repr

namespace CommandLevel

def long? (level : CommandLevel) (name : List Char) : Option OptionForm :=
  level.options.find? fun form => form.long.toList = name

def short? (level : CommandLevel) (letter : Char) : Option OptionForm :=
  level.options.find? fun form => form.short = some letter

/-- What follows the two hyphens: a name, and a value after an equals sign. -/
def longMeaning (level : CommandLevel) (spelled : List Char) : WordMeaning :=
  let name := spelled.takeWhile (· ≠ '=')
  let value := match spelled.dropWhile (· ≠ '=') with
    | [] => none
    | _ :: value => some (String.ofList value)
  match level.long? name with
  | none => if level.hasTail then .ordinary else .unknown
  | some form =>
      match form.takesValue, value with
      | true, none => .awaiting [] form.long
      | true, some value => .settings [⟨form.long, some value⟩]
      | false, none => .settings [⟨form.long, none⟩]
      | false, some _ => .unknown

def attached : List Char → Option String
  | [] => none
  | '=' :: value => some (String.ofList value)
  | value => some (String.ofList value)

/-- What follows a single hyphen: switches, and at the end perhaps an option with a value. -/
def shortMeaning (level : CommandLevel) : List Setting → List Char → WordMeaning
  | settings, [] => .settings settings
  | settings, letter :: rest =>
      match level.short? letter with
      | none => .unknown
      | some form =>
          if form.takesValue then
            match attached rest with
            | none => .awaiting settings form.long
            | some value => .settings (settings ++ [⟨form.long, some value⟩])
          else shortMeaning level (settings ++ [⟨form.long, none⟩]) rest

def meaning (level : CommandLevel) (word : String) : WordMeaning :=
  match word.toList with
  | ['-', '-'] => .ending
  | '-' :: '-' :: spelled => level.longMeaning spelled
  | '-' :: letter :: letters =>
      if level.hasTail && (letter :: letters).any (fun letter => (level.short? letter).isNone)
      then .ordinary
      else level.shortMeaning [] (letter :: letters)
  | _ => .ordinary

end CommandLevel

structure LevelWords where
  settings : List Setting
  operands : List String
  command : Option (String × List String)
  deriving DecidableEq, Repr

namespace LevelWords

def empty : LevelWords := ⟨[], [], none⟩

def withSettings (words : LevelWords) (settings : List Setting) : LevelWords :=
  { words with settings := words.settings ++ settings }

def withOperands (words : LevelWords) (operands : List String) : LevelWords :=
  { words with operands := words.operands ++ operands }

def values (words : LevelWords) (name : String) : List String :=
  words.settings.filterMap fun setting => if setting.name = name then setting.value else none

def value? (words : LevelWords) (name : String) : Option String := (words.values name).head?

def isSet (words : LevelWords) (name : String) : Bool :=
  words.settings.any fun setting => setting.name = name

def occurrences (words : LevelWords) (name : String) : Nat :=
  (words.settings.filter fun setting => setting.name = name).length

end LevelWords

namespace CommandLevel

/-- Sorts the words of a level, on top of those already sorted. -/
def sortWords (level : CommandLevel) (sorted : LevelWords) : List String → Option LevelWords
  | [] => some sorted
  | word :: rest =>
      if word ∈ level.commands then some { sorted with command := some (word, rest) }
      else match level.meaning word with
        | .unknown => none
        | .ending => some (sorted.withOperands rest)
        | .settings settings => level.sortWords (sorted.withSettings settings) rest
        | .awaiting settings name =>
            match rest with
            | [] => none
            | value :: rest =>
                if level.meaning value = .ordinary then
                  level.sortWords
                    (sorted.withSettings (settings ++ [⟨name, some value⟩])) rest
                else none
        | .ordinary =>
            if level.hasTail then some (sorted.withOperands (word :: rest))
            else level.sortWords (sorted.withOperands [word]) rest

def keepsShapes (level : CommandLevel) (words : LevelWords) : Bool :=
  level.options.all fun form =>
    form.shape = .repeated || words.occurrences form.long ≤ 1

def read (level : CommandLevel) (words : List String) : Option LevelWords :=
  match level.sortWords .empty words with
  | none => none
  | some sorted => if level.keepsShapes sorted then some sorted else none

end CommandLevel

end AccessWeave
