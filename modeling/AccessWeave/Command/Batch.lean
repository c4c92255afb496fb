import AccessWeave.Command.Format
import AccessWeave.Command.Outcome
import AccessWeave.Command.Request
import AccessWeave.Weave.Description

/-!
Weaving artifacts on disk, one file or all matching files below a directory, each on its own.
In place only woven files are written. With an output elsewhere, files in which nothing was
inserted are copied, so that the output holds every artifact that could be read. Whether the
output is elsewhere is told from the paths alone.
-/

namespace AccessWeave

structure WeaveJob where
  input : Path
  output : Path
  deriving DecidableEq, Repr

/-- The files below a directory with an extension, each by its path from there. -/
def Tree.matchingFiles (tree : Tree) (directory : Path) (extension : String) : List String :=
  ((tree.filesBelow directory).map (String.intercalate "/")).filter fun relative =>
    (directory.inside relative).extension? = some extension

namespace WeaveRequest

/-- The job for a file by its path from the input. -/
def jobFor (request : WeaveRequest) (relative : String) : WeaveJob :=
  ⟨request.input.inside relative, (request.output.getD request.input).inside relative⟩

def directoryJobs (request : WeaveRequest) (tree : Tree) : List WeaveJob :=
  let extension := (request.format.getD .binary).extension
  ((tree.matchingFiles request.input extension).map request.jobFor).mergeSort fun left right =>
    left.input.atMost right.input

def jobs (request : WeaveRequest) (tree : Tree) : Except Failure (List WeaveJob) :=
  if tree.isFile request.input then
    .ok [⟨request.input, request.output.getD request.input⟩]
  else if tree.isDirectory request.input then .ok (request.directoryJobs tree)
  else .error (.plain (request.input.text ++ " does not exist"))

/-- The transformer for all jobs of a request. Its format comes from the path that was
given, also when that path is a directory. -/
def transformer (request : WeaveRequest) : Transformer :=
  { rules := Rule.placed request.placement
    codec := request.format.getD (.ofPath request.input)
    dispatch := request.dispatch }

end WeaveRequest

inductive FileResult
  | modified (report : Report)
  | unchanged (report : Report)
  | failed (failure : Failure)
  deriving DecidableEq, Repr

structure FileOutcome where
  path : Path
  result : FileResult
  deriving DecidableEq, Repr

namespace WeaveJob

def prepare (job : WeaveJob) (tree : Tree) : Except Failure Unit × Tree :=
  match job.output.parent? with
  | none => (.ok (), tree)
  | some parent =>
      match tree.makeDirectories parent with
      | (none, made) => (.ok (), made)
      | (some fault, made) => (.error (.plain fault.message), made)

def store (job : WeaveJob) (tree : Tree) : Option (List UInt8) → Except Failure Tree
  | some bytes =>
      match tree.write job.output bytes with
      | .ok written => .ok written
      | .error fault =>
          .error ((Failure.plain fault.message).within ("writing " ++ job.output.text))
  | none =>
      match tree.copy job.input job.output with
      | .ok copied => .ok copied
      | .error fault =>
          .error ((Failure.plain fault.message).within ("copying to " ++ job.output.text))

/-- Puts the result of weaving where it belongs. A file that stays as it is and whose output
is its own path is not touched. -/
def finish (job : WeaveJob) (tree : Tree) (report : Report) (woven : Option (List UInt8)) :
    FileResult × Tree :=
  if woven.isNone && job.output.sameAs job.input then (.unchanged report, tree)
  else match job.prepare tree with
    | (.error failure, made) => (.failed failure, made)
    | (.ok (), made) =>
        match job.store made woven with
        | .error failure => (.failed failure, made)
        | .ok stored =>
            (if woven.isSome then .modified report else .unchanged report, stored)

def run (transformer : Transformer) (job : WeaveJob) (tree : Tree) : FileOutcome × Tree :=
  match tree.read job.input with
  | .error fault =>
      (⟨job.input,
        .failed ((Failure.plain fault.message).within ("reading " ++ job.input.text))⟩, tree)
  | .ok bytes =>
      match transformer.transform bytes with
      | .error error => (⟨job.input, .failed ⟨error.message, error.causes⟩⟩, tree)
      | .ok (report, woven) =>
          let (result, after) := job.finish tree report woven
          (⟨job.input, result⟩, after)

def runAll (transformer : Transformer) : List WeaveJob → Tree → List FileOutcome × Tree
  | [], tree => ([], tree)
  | job :: jobs, tree =>
      let (outcome, after) := job.run transformer tree
      let (outcomes, last) := runAll transformer jobs after
      (outcome :: outcomes, last)

end WeaveJob

namespace FileResult

def word : FileResult → String
  | modified _ => "modified"
  | unchanged _ => "unchanged"
  | failed _ => "failed"

end FileResult

def countOf (word : String) (files : List FileOutcome) : Nat :=
  (files.filter fun file => file.result.word = word).length

namespace FileOutcome

def siteLine (site : GuardedSite) : String :=
  "             " ++ site.method ++ " <- " ++ site.operation.displayName

def lines (file : FileOutcome) : List String :=
  match file.result with
  | .modified report => ("modified   " ++ file.path.text) :: report.guarded.map siteLine
  | .unchanged _ => ["unchanged  " ++ file.path.text]
  | .failed failure => ["failed     " ++ file.path.text ++ ": " ++ failure.inline]

/-- The members of a report. An empty list of sites is left out. -/
def reportFields (report : Report) : List (String × Json.Document) :=
  ("class", Json.Document.ofText report.className)
    :: (if report.guarded.isEmpty then []
        else [("guarded", Json.Document.ofList GuardedSite.describe report.guarded)])

def describe (file : FileOutcome) : Json.Document :=
  Json.Document.ofFields
    ([("path", Json.Document.ofText file.path.text),
      ("status", Json.Document.ofText file.result.word)]
    ++ match file.result with
      | .modified report => reportFields report
      | .unchanged report => reportFields report
      | .failed failure => [("error", Json.Document.ofText failure.inline)])

end FileOutcome

def summaryLine (files : List FileOutcome) : String :=
  toString (countOf "modified" files) ++ " modified, "
    ++ toString (countOf "unchanged" files) ++ " unchanged, "
    ++ toString (countOf "failed" files) ++ " failed"

def describeBatch (files : List FileOutcome) : Json.Document :=
  Json.Document.ofFields
    [("summary", Json.Document.ofFields
      (["modified", "unchanged", "failed"].map fun word =>
        (word, Json.Document.ofInt (countOf word files)))),
     ("files", Json.Document.ofList FileOutcome.describe files)]

def batchFailure (failed : Nat) : Failure :=
  .plain (toString failed ++ " artifact(s) could not be transformed")

def runTransform (asJson : Bool) (request : WeaveRequest) (tree : Tree) : Outcome :=
  match request.jobs tree with
  | .error failure => .failed failure tree
  | .ok jobs =>
      let (files, after) := WeaveJob.runAll request.transformer jobs tree
      let output :=
        if asJson then printed (describeBatch files)
        else printedLines (files.flatMap FileOutcome.lines ++ [summaryLine files])
      let failed := countOf "failed" files
      if failed = 0 then .success output after
      else { Outcome.failed (batchFailure failed) after with output }

end AccessWeave
