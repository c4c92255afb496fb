import AccessWeave.Command.PolicyCheck
import AccessWeave.Policy.Guarded

/-!
Trying a guarded operation as the code of some module, under a policy. The operation passes
through the same guard as in woven code, and really happens when the guard allows it: the
command ends with the status that it was asked for, starts the program and waits for it, or
connects. Without a module the caller is code of no module.
-/

namespace AccessWeave

/-- The caller's module, given with or without the keyword in front of its name. -/
def callerModule (given : String) : Except NotAPrincipal Principal :=
  if ' ' ∈ given.toList then Principal.parse given
  else Principal.parse (Principal.keyword ++ " " ++ given)

def callerFrame : Option String → Except Failure Frame
  | none => .ok (.unnamed "Main.main")
  | some given =>
      match callerModule given with
      | .error error => .error (.plain error.message)
      | .ok principal => .ok ⟨some principal, principal.name ++ ".Main.main"⟩

/-- An exit status as the system keeps it, in one byte. -/
def keptStatus (status : Int) : Nat := (status % 256).toNat

def GuardError.failure (error : GuardError) : Failure := ⟨error.message, error.causes⟩

def GuardedError.failure (error : GuardedError) : Failure := ⟨error.message, error.causes⟩

def describeRun (program : String) (status : ExitStatus) : Json.Document :=
  Json.Document.ofFields
    [("allowed", .boolean true), ("program", Json.Document.ofText program),
     ("status", Json.Document.ofOption (fun code => Json.Document.ofInt (Int.ofNat code))
       status.code?)]

def describeConnection (peer : String) (payload : Option String) : Json.Document :=
  Json.Document.ofFields
    [("allowed", .boolean true), ("peer", Json.Document.ofText peer),
     ("sent", Json.Document.ofInt ((payload.map String.utf8ByteSize).getD 0))]

def rehearseExit (engine : Engine) (status : Int) (stack : ShadowStack) (tree : Tree) :
    Outcome :=
  match (engine.exit status stack).1 with
  | .error error => .failed error.failure tree
  | .ok status => { Outcome.success [] tree with status := keptStatus status }

/-- The program writes first, and then the command. -/
def rehearseExec (asJson : Bool) (host : Host Tree) (engine : Engine) (program : String)
    (arguments : List String) (stack : ShadowStack) (tree : Tree) : Outcome :=
  match (engine.spawn host program arguments tree stack).1 with
  | (.error error, after) => .failed error.failure after
  | (.ok run, after) =>
      let announced :=
        if asJson then printed (describeRun program run.status)
        else printedLines [program ++ " exited with " ++ run.status.text]
      let output := run.output ++ announced
      if run.status.isSuccess then { Outcome.success output after with errors := run.errors }
      else
        let failed :=
          Outcome.failed (.plain (program ++ " did not exit successfully")) after
        { failed with output, errors := run.errors ++ failed.errors }

def rehearseConnect (asJson : Bool) (host : Host Tree) (engine : Engine) (address : String)
    (payload : Option String) (stack : ShadowStack) (tree : Tree) : Outcome :=
  match (engine.connect host address tree stack).1 with
  | (.error error, after) => .failed error.failure after
  | (.ok peer, after) =>
      .success
        (if asJson then printed (describeConnection peer payload)
          else printedLines ["connected to " ++ peer])
        after

def rehearse (asJson : Bool) (host : Host Tree) (engine : Engine) (attempt : Attempt)
    (stack : ShadowStack) (tree : Tree) : Outcome :=
  match attempt with
  | .exit status => rehearseExit engine status stack tree
  | .exec program arguments =>
      rehearseExec asJson host engine program arguments stack tree
  | .connect address payload =>
      rehearseConnect asJson host engine address payload stack tree

def rehearsalScene (source : PolicySource) (caller : Option String)
    (environment : List (String × String)) (tree : Tree) :
    Except Failure (Engine × ShadowStack) := do
  let properties ← source.load environment tree
  let config ← policyOf properties
  let frame ← callerFrame caller
  .ok (⟨.ofConfig config, .shadow⟩, [frame])

def runSimulate (asJson : Bool) (host : Host Tree) (source : PolicySource)
    (caller : Option String) (attempt : Attempt) (environment : List (String × String))
    (tree : Tree) : Outcome :=
  match rehearsalScene source caller environment tree with
  | .error failure => .failed failure tree
  | .ok (engine, stack) => rehearse asJson host engine attempt stack tree

end AccessWeave
