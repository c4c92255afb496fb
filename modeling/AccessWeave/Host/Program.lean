import AccessWeave.Host.Fault
import AccessWeave.Host.Signal
import AccessWeave.Host.Tree

/-!
Programs that a command can start, and the network that it can reach. A host is given by
what starting a program and dialling an address lead to in a state of the system, and in which
state they leave it.
-/

namespace AccessWeave

inductive ExitStatus
  | exited (code : Nat)
  | signaled (signal : Nat)
  deriving DecidableEq, Repr

namespace ExitStatus

def text : ExitStatus → String
  | exited code => "exit status: " ++ toString code
  | signaled signal =>
      "signal: " ++ toString signal
        ++ ((Signal.name? signal).map fun name => " (SIG" ++ name ++ ")").getD ""

def code? : ExitStatus → Option Nat
  | exited code => some code
  | signaled _ => none

def isSuccess (status : ExitStatus) : Bool := status = exited 0

end ExitStatus

def givenLimit : Nat := 131071

/-- The most bytes of all words and variables together, with the end of each and its place. -/
def allGivenLimit : Nat := 2097152

/-- How many bytes the end of a word and its place take up. -/
def givenOverhead : Nat := 9

def canBeGiven (lengths : List Nat) : Bool :=
  lengths.all (· ≤ givenLimit)
    && (lengths.map (· + givenOverhead)).foldl (· + ·) 0 ≤ allGivenLimit

structure ProgramRun where
  status : ExitStatus
  output : List UInt8
  errors : List UInt8
  deriving DecidableEq, Repr

structure Host (State : Type) where
  start : String → List String → State → Except SystemFault ProgramRun × State
  /-- Connects to an address; the address at the other end. -/
  dial : String → State → Except SystemFault String × State

end AccessWeave
