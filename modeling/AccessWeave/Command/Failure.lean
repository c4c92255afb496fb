import AccessWeave.Text.Column
import AccessWeave.Text.Split

/-!
Failures of a command. A failure has a message and the messages of its causes, outermost
first. It is shown either as a report, which lists the causes below the message, or in one
line, which joins them all.
-/

namespace AccessWeave

structure Failure where
  message : String
  causes : List String
  deriving DecidableEq, Repr

namespace Failure

def plain (message : String) : Failure := ⟨message, []⟩

def within (context : String) (failure : Failure) : Failure :=
  ⟨context, failure.message :: failure.causes⟩

def inline (failure : Failure) : String :=
  String.intercalate ": " (failure.message :: failure.causes)

/-- The lines of a text, with something before the first and something before each other. -/
def indent (first other text : String) : String :=
  first ++ String.intercalate ("\n" ++ other)
    ((Text.pieces '\n' text.toList).map String.ofList)

/-- A single cause is indented; several are numbered from zero, with the later lines of a
cause below its first. -/
def listCauses : List String → List String
  | [cause] => [indent "    " "    " cause]
  | causes => causes.zipIdx.map fun (cause, index) =>
      indent (Text.alignRight 5 (toString index) ++ ": ") "       " cause

def report (failure : Failure) : String :=
  let causes :=
    if failure.causes.isEmpty then []
    else ["", "Caused by:"] ++ listCauses failure.causes
  String.join ((("Error: " ++ failure.message) :: causes).map fun line => line ++ "\n")

end Failure

end AccessWeave
