import AccessWeave.Command.Failure
import AccessWeave.Host.Tree
import AccessWeave.Json.Writer

/-!
What a command leaves behind: the status it ends with, what it wrote to its two outputs, and
the files. A failed command has written what it had to write before it failed, and then its
report.
-/

namespace AccessWeave

structure Outcome where
  status : Nat
  output : List UInt8
  errors : List UInt8
  tree : Tree
  deriving DecidableEq, Repr

def printed (document : Json.Document) : List UInt8 := Json.write document ++ [0x0A]

def printedLines (lines : List String) : List UInt8 :=
  Text.toBytes (String.join (lines.map fun line => line ++ "\n"))

namespace Outcome

def success (output : List UInt8) (tree : Tree) : Outcome := ⟨0, output, [], tree⟩

def failed (failure : Failure) (tree : Tree) : Outcome :=
  ⟨1, [], Text.toBytes failure.report, tree⟩

/-- A command line that asks for nothing. What to do instead is not said here. -/
def misused (tree : Tree) : Outcome := ⟨2, [], [], tree⟩

end Outcome

end AccessWeave
