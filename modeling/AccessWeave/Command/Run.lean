import AccessWeave.Command.Artifact
import AccessWeave.Command.Batch
import AccessWeave.Command.Rehearsal
import AccessWeave.Host.Standard

/-!
Running a command line: what it leaves behind, given the host, the environment variables in
their order, and the files. Only files at or below the paths of a request matter to it, and
the bootstrap artifact that its policy names; a program that it starts may use any file of the
working directory.
-/

namespace AccessWeave

/-- The paths that a request reads or writes, itself or by a program that it starts. -/
def Request.paths : Request → List Path
  | .checkConfig source _ => source.file.toList
  | .transform request => request.input :: request.output.toList
  | .inspect input _ _ => [input]
  | .assemble input output => [input, assemblyTarget input output]
  | .simulate source _ (.exec _ _) => ⟨"."⟩ :: source.file.toList
  | .simulate source _ _ => source.file.toList

/-- The artifact whose presence a check asks for, once the policy is loaded. -/
def Request.bootstrapPath? (request : Request) (environment : List (String × String))
    (tree : Tree) : Option Path :=
  match request with
  | .checkConfig source true =>
      match source.load environment tree with
      | .error _ => none
      | .ok properties => (properties.find? bootstrapKey).map Path.mk
  | _ => none

def Invocation.run (invocation : Invocation) (host : Host Tree)
    (environment : List (String × String)) (tree : Tree) : Outcome :=
  match invocation.request with
  | .checkConfig source asAgent =>
      runCheckConfig invocation.asJson source asAgent environment tree
  | .transform request => runTransform invocation.asJson request tree
  | .inspect input format verify => runInspect invocation.asJson input format verify tree
  | .assemble input output => runAssemble invocation.asJson input output tree
  | .simulate source principal attempt =>
      runSimulate invocation.asJson host source principal attempt environment tree

/-- Adds what the command has written to its outputs by the names of files, which it does before
it says anything. -/
def Outcome.withWritten (outcome : Outcome) : Outcome :=
  { outcome with
    output := outcome.tree.writtenTo 1 ++ outcome.output
    errors := outcome.tree.writtenTo 2 ++ outcome.errors }

def runCommandLine (words : List String) (host : Host Tree)
    (environment : List (String × String)) (tree : Tree) : Outcome :=
  match Invocation.ofWords? words with
  | none => .misused tree
  | some invocation => (invocation.run host environment tree).withWritten

end AccessWeave
