import AccessWeave.Policy.Guarded
import AccessWeave.Weave.Transformer

/-!
The agent joins the two halves: it is set up once from properties, weaves every class that
is defined or redefined, and answers for the guard. It is set up only if the bootstrap
artifact is named and exists and the policy is valid, checked in this order.
-/

namespace AccessWeave

inductive AgentError
  | missingBootstrapArtifact
  | bootstrapArtifactNotFound (path : String)
  | config (error : ConfigError)
  | transform (className : String) (error : TransformError)
  deriving DecidableEq, Repr

namespace AgentError

def message : AgentError → String
  | missingBootstrapArtifact => "No " ++ bootstrapKey ++ " specified"
  | bootstrapArtifactNotFound path => "bootstrap artifact " ++ path ++ " does not exist"
  | config error => error.message
  | transform className error =>
      "failed to transform " ++ className ++ ": " ++ error.message

/-- A wrapped error is a cause of its own. -/
def causes : AgentError → List String
  | config error => error.message :: error.causes
  | transform _ error => error.message :: error.causes
  | _ => []

end AgentError

structure Agent where
  config : Config
  bootstrapArtifact : String
  engine : Engine
  transformer : Transformer

namespace Agent

def setUp (isPresent : String → Bool) (properties : Properties) : Except AgentError Agent :=
  match properties.find? bootstrapKey with
  | none => .error .missingBootstrapArtifact
  | some path =>
      if isPresent path then
        match Config.ofProperties properties with
        | .error error => .error (.config error)
        | .ok config =>
            .ok
              { config
                bootstrapArtifact := path
                engine := ⟨Catalog.ofConfig config, .shadow⟩
                transformer := Transformer.ofRules Rule.standard }
      else .error (.bootstrapArtifactNotFound path)

/-- The new bytes of a class, or nothing when its bytes can stay. -/
def onClass (agent : Agent) (className : String) (bytes : List UInt8) :
    Except AgentError (Option (List UInt8)) :=
  match agent.transformer.transform bytes with
  | .error error => .error (.transform className error)
  | .ok (_, woven) => .ok woven

def retransformTargets (agent : Agent) : List String :=
  Rule.runtimeCallers agent.transformer.rules

end Agent

end AccessWeave
