import AccessWeave.Class.Instruction

/-!
Guards that a stream already carries. A guard is a pair of neighbours, a text literal and
the call that asks. A pair protects a call only from the two places where the weaver itself
puts guards: the run of pairs at the start of the stream, and the run of pairs that ends
right before the call. A pair elsewhere is ordinary code.
-/

namespace AccessWeave

open Instruction (loadConst invoke)

def pairKey? : Instruction → Instruction → Option String
  | loadConst (.string key), invoke target => if target = guardEntry then some key else none
  | _, _ => none

def guardPosition? (operation : Operation) : List Instruction → Option Nat
  | first :: second :: rest =>
      if pairKey? first second = some operation.key then some 0
      else (guardPosition? operation (second :: rest)).map (· + 1)
  | _ => none

/-- Whether the run of pairs at the start of the stream holds the key. -/
def entryRunHolds (key : String) : List Instruction → Bool
  | first :: second :: rest =>
      match pairKey? first second with
      | some found => found = key || entryRunHolds key rest
      | none => false
  | _ => false

/-- Whether the run of pairs at the end of a stream, given in reverse, holds the key. -/
def closingRunHolds (key : String) : List Instruction → Bool
  | second :: first :: rest =>
      match pairKey? first second with
      | some found => found = key || closingRunHolds key rest
      | none => false
  | _ => false

/-- Whether a guard of the operation runs before the call at the given index on every path,
told from the entry run and, when every path passes through that call, the run before it. -/
def protects (stream : List Instruction) (operation : Operation) (first : Nat)
    (firstDominates : Bool) : Bool :=
  entryRunHolds operation.key stream
    || (firstDominates && closingRunHolds operation.key (stream.take first).reverse)

end AccessWeave
