import AccessWeave.Ascending
import AccessWeave.Json.Reader
import AccessWeave.Json.Record
import AccessWeave.Text.Blank
import AccessWeave.Text.Split

/-!
Properties: texts under keys that are texts, in ascending order of the keys. They come from
lines of text, from a JSON object, from environment variables and from overrides. Within a
source and between sources the later entry for a key wins.
-/

namespace AccessWeave

structure Properties where
  entries : List (String × String)
  ascending : Ascending Prod.fst entries
  deriving DecidableEq

namespace Properties

def empty : Properties := ⟨[], List.Pairwise.nil⟩

def insert (key value : String) (properties : Properties) : Properties :=
  ⟨insertAscending Prod.fst (key, value) properties.entries,
    insert_ascending _ properties.ascending⟩

def find? (properties : Properties) (key : String) : Option String :=
  (properties.entries.find? fun entry => entry.1 = key).map Prod.snd

def overlay (properties : Properties) (later : List (String × String)) : Properties :=
  later.foldl (fun kept entry => kept.insert entry.1 entry.2) properties

def ofList (entries : List (String × String)) : Properties := empty.overlay entries

/-- The entry on a line, if the line is not blank and not a comment. A line without
separator is a key with an empty text. -/
def lineEntry? (line : List Char) : Option (String × String) :=
  match Text.trim line with
  | [] => none
  | first :: rest =>
      if first = '#' ∨ first = '!' then none
      else
        let (key, value) :=
          (Text.cutOnce (fun character => character = '=' || character = ':')
            (first :: rest)).getD (first :: rest, [])
        some (String.ofList (Text.trim key), String.ofList (Text.trim value))

def ofText (text : String) : Properties :=
  ofList ((Text.pieces '\n' text.toList).filterMap lineEntry?)

def environmentStem : List Char := "CALLGUARD_".toList

def keyStem : List Char := "callguard.".toList

/-- The key that an environment variable sets. Letters outside ASCII keep their case. -/
def variableKey? (name : String) : Option String :=
  match environmentStem.isPrefixOf? name.toList with
  | none => none
  | some [] => none
  | some rest =>
      some (String.ofList (keyStem ++ rest.map fun character =>
        if character = '_' then '.' else character.toLower))

def ofEnvironment (environment : List (String × String)) : Properties :=
  ofList (environment.filterMap fun (name, value) =>
    (variableKey? name).map fun key => (key, value))

def overrideEntry? (argument : String) : Option (String × String) :=
  (Text.cutOnce (· = '=') argument.toList).map fun (key, value) =>
    (String.ofList (Text.trim key), String.ofList (Text.trim value))

/-- The properties with the overrides on top, up to the first override that has no entry,
and that override if there is one. -/
def applyOverrides (properties : Properties) : List String → Option String × Properties
  | [] => (none, properties)
  | argument :: arguments =>
      match overrideEntry? argument with
      | none => (some argument, properties)
      | some (key, value) => applyOverrides (properties.insert key value) arguments

end Properties

def greatestNesting : Nat := 127

inductive DocumentFault
  /-- Not a JSON object, nested too deeply, or with a part that means nothing. -/
  | malformed
  /-- The first key, in ascending order, whose value is not a text. -/
  | notAText (key : String)
  deriving DecidableEq, Repr

namespace Properties

def memberTexts? : Json.Document → Option (List (String × Option String))
  | .object members => members.mapM fun (raw, value) => do
      let name ← Json.textOfRaw raw
      some (name, value.text?)
  | _ => none

/-- The properties that a JSON object has as its members. All of the document has to mean
something, also members that a later member of the same name replaces. -/
def ofJson (bytes : List UInt8) : Except DocumentFault Properties :=
  match Json.read bytes with
  | none => .error .malformed
  | some document =>
      if document.levels ≤ greatestNesting ∧ document.isMeaningful then
        match memberTexts? document with
        | none => .error .malformed
        | some members =>
            let ordered := ascendingOf Prod.fst members
            match ordered.find? fun member => member.2.isNone with
            | some (key, _) => .error (.notAText key)
            | none => .ok (ofList (ordered.map fun member => (member.1, member.2.getD "")))
      else .error .malformed

end Properties

end AccessWeave
