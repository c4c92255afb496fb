import AccessWeave.Agent
import AccessWeave.Command.Outcome
import AccessWeave.Command.Request
import AccessWeave.Policy.Description

/-!
Checking a policy. The properties of a policy come from a file, then the environment, then
the overrides, and of several entries for a key the last wins. A file whose extension is json
holds a JSON object, any other file lines of text.
-/

namespace AccessWeave

def Properties.ofFile (tree : Tree) (path : Path) : Except ConfigError Properties :=
  match tree.readText path with
  | .error fault => .error (.unreadable path.text fault)
  | .ok text =>
      if path.hasExtension "json" then
        (Properties.ofJson (Text.toBytes text)).mapError ConfigError.ofDocumentFault
      else .ok (.ofText text)

namespace PolicySource

def fileProperties (source : PolicySource) (tree : Tree) : Except Failure Properties :=
  match source.file with
  | none => .ok .empty
  | some path =>
      (Properties.ofFile tree path).mapError fun error =>
        (Failure.mk error.message error.causes).within ("loading policy from " ++ path.text)

def environmentEntries (source : PolicySource) (environment : List (String × String)) :
    List (String × String) :=
  if source.readsEnvironment then (Properties.ofEnvironment environment).entries else []

def load (source : PolicySource) (environment : List (String × String)) (tree : Tree) :
    Except Failure Properties :=
  match source.fileProperties tree with
  | .error failure => .error failure
  | .ok properties =>
      let layered := properties.overlay (source.environmentEntries environment)
      match layered.applyOverrides source.overrides with
      | (none, overridden) => .ok overridden
      | (some argument, _) =>
          .error (.plain (ConfigError.invalidOverride argument).message)

end PolicySource

def policyOf (properties : Properties) : Except Failure Config :=
  (Config.ofProperties properties).mapError fun error => ⟨error.message, error.causes⟩

/-- The policy that an agent would be set up with. -/
def agentPolicy (tree : Tree) (properties : Properties) : Except Failure Config :=
  match Agent.setUp (fun path => tree.holds ⟨path⟩) properties with
  | .error error => .error ⟨error.message, error.causes⟩
  | .ok agent => .ok agent.config

def policyLine (config : Config) (operation : Operation) : String :=
  let principals := (config.allowed operation).members
  "  " ++ Text.alignLeft 26 operation.displayName ++ " "
    ++ (if principals.isEmpty then "(denied to everyone)"
        else String.intercalate ", " (principals.map Principal.text))

def artifactLine (config : Config) : String :=
  "  bootstrap artifact         " ++ config.bootstrapArtifact.getD "(not set)"

def policyLines (config : Config) : List String :=
  ["Policy OK"] ++ Operation.all.map (policyLine config) ++ [artifactLine config]

def describeValid (config : Config) : Json.Document :=
  Json.Document.ofFields [("valid", .boolean true), ("config", config.describe)]

def runCheckConfig (asJson : Bool) (source : PolicySource) (asAgent : Bool)
    (environment : List (String × String)) (tree : Tree) : Outcome :=
  let checked := source.load environment tree >>= fun properties =>
    if asAgent then agentPolicy tree properties else policyOf properties
  match checked with
  | .error failure => .failed failure tree
  | .ok config =>
      .success
        (if asJson then printed (describeValid config) else printedLines (policyLines config))
        tree

end AccessWeave
