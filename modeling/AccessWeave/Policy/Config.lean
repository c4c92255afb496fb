import AccessWeave.Host.Fault
import AccessWeave.Operation
import AccessWeave.Policy.Principal
import AccessWeave.Policy.Properties

/-!
Policy configuration. Of the properties only those under the reserved stem are looked at:
an allow-list for each operation, and the path of the bootstrap artifact. The first offending
key in ascending order decides the error. Whatever is not listed is denied.
-/

namespace AccessWeave

def bootstrapKey : String := "callguard.bootstrap.artifact"

/-- Every key under the stem that means something, in the order in which errors show them. -/
def recognizedKeys : List String := Operation.all.map Operation.configKey ++ [bootstrapKey]

inductive ConfigError
  | unknownKey (key : String)
  /-- An entry of an allow-list, without the blanks around it. -/
  | malformedPrincipal (value : String)
  | invalidOverride (argument : String)
  | unreadable (path : String) (fault : SystemFault)
  | json
  | nonStringValue (key : String)
  deriving DecidableEq, Repr

namespace ConfigError

def message : ConfigError → String
  | unknownKey key =>
      key ++ " is not a valid key. Allowed keys are: "
        ++ String.intercalate ", " recognizedKeys
  | malformedPrincipal value => (NotAPrincipal.mk value).message
  | invalidOverride argument =>
      "invalid override '" ++ argument ++ "': expected key=value"
  | unreadable path fault => "cannot read " ++ path ++ ": " ++ fault.message
  | json => "invalid JSON configuration: the document is not an object of texts"
  | nonStringValue key => "value of " ++ key ++ " must be a string"

def causes : ConfigError → List String
  | unreadable _ fault => [fault.message]
  | _ => []

def ofDocumentFault : DocumentFault → ConfigError
  | .malformed => json
  | .notAText key => nonStringValue key

end ConfigError

def parseEntries : List (List Char) → Except ConfigError (List Principal)
  | [] => .ok []
  | entry :: entries =>
      match Principal.parse (String.ofList (Text.trim entry)) with
      | .error error => .error (.malformedPrincipal error.value)
      | .ok principal =>
          match parseEntries entries with
          | .error error => .error error
          | .ok principals => .ok (principal :: principals)

/-- The principals of an allow-list, whose entries are separated by commas. A blank text is
an empty list. -/
def parseAllowList (value : String) : Except ConfigError PrincipalSet :=
  if (Text.trim value.toList).isEmpty then .ok .empty
  else match parseEntries (Text.pieces ',' value.toList) with
    | .error error => .error error
    | .ok principals => .ok (.ofList principals)

/-- The entries stand in the order of the operations, and every operation has one. -/
structure Config where
  allow : List (Operation × PrincipalSet)
  complete : allow.map Prod.fst = Operation.all
  bootstrapArtifact : Option String
  deriving DecidableEq

namespace Config

def allowed (config : Config) (operation : Operation) : PrincipalSet :=
  (config.allow.lookup operation).getD .empty

def denyAll : Config := ⟨Operation.all.map fun operation => (operation, .empty), rfl, none⟩

def setAllowed (config : Config) (operation : Operation) (principals : PrincipalSet) :
    Config where
  allow := config.allow.map fun (other, kept) =>
    (other, if other = operation then principals else kept)
  complete := by
    rw [List.map_map]
    exact config.complete
  bootstrapArtifact := config.bootstrapArtifact

theorem lookup_allow (config : Config) (operation : Operation) :
    config.allow.lookup operation = some (config.allowed operation) := by
  have named : operation ∈ config.allow.map Prod.fst := by
    rw [config.complete]
    exact operation.mem_all
  obtain ⟨⟨_, principals⟩, member, rfl⟩ := List.mem_map.mp named
  cases found : config.allow.lookup _ with
  | some kept => rw [allowed, found, Option.getD_some]
  | none =>
      rw [List.lookup_eq_none_iff] at found
      simpa using found _ member

theorem mem_allow_iff {config : Config} {operation : Operation} {principals : PrincipalSet} :
    (operation, principals) ∈ config.allow ↔ config.allowed operation = principals := by
  rw [← Option.some_inj, ← lookup_allow, List.lookup_eq_some_iff]
  constructor
  · intro member
    obtain ⟨before, after, split⟩ := List.append_of_mem member
    have distinct : (config.allow.map Prod.fst).Nodup := by
      rw [config.complete]
      decide
    rw [split, List.map_append, List.nodup_append] at distinct
    refine ⟨before, after, split, fun earlier inside => bne_iff_ne.mpr fun same => ?_⟩
    exact distinct.2.2 earlier.1 (List.mem_map_of_mem inside) operation List.mem_cons_self
      same.symm
  · rintro ⟨before, after, split, -⟩
    rw [split]
    exact List.mem_append_right before List.mem_cons_self

theorem allow_eq (config : Config) :
    config.allow = Operation.all.map fun operation => (operation, config.allowed operation) := by
  have entry : ∀ entry ∈ config.allow, (entry.1, config.allowed entry.1) = id entry :=
    fun entry member => Prod.ext rfl (mem_allow_iff.mp member)
  rw [← config.complete, List.map_map]
  exact (List.map_id _).symm.trans (List.map_congr_left entry).symm

theorem ext_allowed {left right : Config}
    (allowed : ∀ operation, left.allowed operation = right.allowed operation)
    (artifact : left.bootstrapArtifact = right.bootstrapArtifact) : left = right := by
  have entries : left.allow = right.allow := by simp only [allow_eq, allowed]
  cases left
  cases right
  cases entries
  cases artifact
  rfl

@[simp] theorem allowed_deny_all (operation : Operation) :
    denyAll.allowed operation = .empty :=
  mem_allow_iff.mp (List.mem_map_of_mem operation.mem_all)

@[simp] theorem allowed_set_allowed (config : Config) (operation other : Operation)
    (principals : PrincipalSet) :
    (config.setAllowed operation principals).allowed other =
      if other = operation then principals else config.allowed other := by
  rw [← mem_allow_iff]
  exact List.mem_map.mpr ⟨(other, config.allowed other), mem_allow_iff.mpr rfl, rfl⟩

def withEntry (config : Config) (key value : String) : Except ConfigError Config :=
  if Properties.keyStem.isPrefixOf key.toList then
    match Operation.ofConfigKey? key with
    | some operation =>
        match parseAllowList value with
        | .error error => .error error
        | .ok principals => .ok (config.setAllowed operation principals)
    | none =>
        if key = bootstrapKey then .ok { config with bootstrapArtifact := some value }
        else .error (.unknownKey key)
  else .ok config

def withEntries (config : Config) : List (String × String) → Except ConfigError Config
  | [] => .ok config
  | (key, value) :: entries =>
      match config.withEntry key value with
      | .error error => .error error
      | .ok next => next.withEntries entries

def ofProperties (properties : Properties) : Except ConfigError Config :=
  denyAll.withEntries properties.entries

def allowList (principals : PrincipalSet) : String :=
  String.intercalate "," (principals.members.map Principal.text)

def listProperty (entry : Operation × PrincipalSet) : String × String :=
  (entry.1.configKey, allowList entry.2)

def toProperties (config : Config) : Properties :=
  let lists := Properties.ofList (config.allow.map listProperty)
  match config.bootstrapArtifact with
  | none => lists
  | some path => lists.insert bootstrapKey path

end Config

end AccessWeave
