import AccessWeave.Policy.Catalog
import AccessWeave.Policy.Stack

/-!
Decisions. The caller of an operation is the first frame that is not trusted, after the
frames of the deciding code itself have been skipped. Each layer of that code enters a frame
of its own, and the numbers of frames to skip add up along the way that a check takes. A
caller that is not found or has no name is denied, whatever the catalog says.
-/

namespace AccessWeave

structure Denial where
  operation : Operation
  principal : Option Principal
  deriving DecidableEq, Repr

def Denial.message (denial : Denial) : String :=
  denial.operation.displayName ++ " not allowed for " ++ (match denial.principal with
    | some principal => "Module: " ++ principal.name
    | none => "unknown caller")

/-- A broken agreement between woven code and the guard. -/
inductive InternalError
  | unknownOperation (key : String)
  | negativeSkip (value : Int)
  deriving DecidableEq, Repr

def InternalError.message : InternalError → String
  | .unknownOperation key => "Unknown method: " ++ key
  | .negativeSkip value => "framesToSkip must be >= 0, got " ++ toString value

inductive GuardError
  | denied (denial : Denial)
  | internal (error : InternalError)
  deriving DecidableEq, Repr

namespace GuardError

def message : GuardError → String
  | denied denial => denial.message
  | internal error => "internal guard error: " ++ error.message

def causes : GuardError → List String
  | denied denial => [denial.message]
  | internal error => [error.message]

end GuardError

/-- The frames that the search for the caller enters. -/
def resolverFrames : Nat := 1

/-- The frames that a decision enters before the search. -/
def engineFrames : Nat := 2

/-- The frames that the guard enters before a decision. -/
def guardFrames : Nat := 1

def directSkip : Nat := resolverFrames + engineFrames

def guardedSkip : Nat := resolverFrames + engineFrames + guardFrames

def skipOf (value : Int) : Except InternalError Nat :=
  if value < 0 then .error (.negativeSkip value) else .ok value.toNat

def callerOf (skip : Nat) (frames : List Frame) : Option Principal :=
  ((frames.drop skip).find? fun frame => !frame.isTrusted).bind Frame.principal

structure Engine where
  catalog : Catalog
  walker : Walker

namespace Engine

/-- The caller, searched from inside a frame of its own. -/
def resolveCaller (engine : Engine) (skip : Nat) :
    ShadowStack → Option Principal × ShadowStack :=
  engine.walker.within (.support "callguard.bootstrap.CallerResolver.resolve_caller")
    fun stack => (callerOf skip (engine.walker.frames stack), stack)

def decide (engine : Engine) (operation : Operation) (caller : Option Principal) :
    Except Denial Unit :=
  match caller with
  | none => .error ⟨operation, none⟩
  | some principal =>
      if engine.catalog.allows operation principal then .ok ()
      else .error ⟨operation, some principal⟩

def checkOperation (engine : Engine) (operation : Operation) (skip : Nat) :
    ShadowStack → Except Denial Unit × ShadowStack :=
  engine.walker.within (.support "callguard.bootstrap.PolicyEngine.check_operation")
    fun stack =>
      let (caller, after) := engine.resolveCaller skip stack
      (engine.decide operation caller, after)

def checkPermission (engine : Engine) (operation : Operation) :
    ShadowStack → Except Denial Unit × ShadowStack :=
  engine.walker.within (.support "callguard.bootstrap.PolicyEngine.check_permission")
    (engine.checkOperation operation directSkip)

def checkGuarded (engine : Engine) (operation : Operation) :
    ShadowStack → Except Denial Unit × ShadowStack :=
  engine.walker.within (.support "callguard.bootstrap.PolicyEngine.check_guarded")
    (engine.checkOperation operation guardedSkip)

/-- What the guard answers to woven code: it looks up the operation of the key and checks
it. -/
def guardPermission (engine : Engine) (key : String) :
    ShadowStack → Except GuardError Unit × ShadowStack :=
  engine.walker.within (.support "callguard.bootstrap.AccessControl.checkPermission")
    fun stack =>
      match Operation.ofKey? key with
      | none => (.error (.internal (.unknownOperation key)), stack)
      | some operation =>
          let (result, after) := engine.checkGuarded operation stack
          (result.mapError .denied, after)

end Engine

end AccessWeave
