import AccessWeave.Host.Address
import AccessWeave.Shell.Start

/-!
A host on its own, on which the commands can be run as a whole: it has the programs true, false
and cat and a shell, which sees the environment and the files, and no network, so that every
address that is one is unreachable. A program is named by a path, or by a name that is looked for
in the places of the environment. Files are no programs, and starting one is refused.

It is one host among others. What is proved about the guarded operations is proved for every
host, and no theorem looks at the programs of this one.
-/

namespace AccessWeave

def searchPlaces (environment : List (String × String)) : List String :=
  (Text.pieces ':' ((environment.lookup "PATH").getD "/bin:/usr/bin").toList).map String.ofList

/-- The program that a path leads to. Other files and directories may not be started. -/
def programAt (tree : Tree) (path : Path) : Except SystemFault String :=
  match tree.lookup path with
  | .error fault => .error fault
  | .ok (.program name) => .ok name
  | .ok _ => .error .permissionDenied

/-- The faults that end the search at one place only. -/
def SystemFault.isPassedOver (fault : SystemFault) : Bool :=
  fault ∈ [.notFound, .notADirectory, .permissionDenied]

def placeLimit : Nat := 4095

/-- The places that a search comes to. One that is too long counts as the working directory, and
is left out at the end. -/
def reachablePlaces : List String → List String
  | [] => []
  | place :: places =>
      if place.utf8ByteSize ≤ placeLimit then place :: reachablePlaces places
      else if places.isEmpty then []
      else "" :: reachablePlaces places

/-- The first program of a name in the places where it is looked for. A file that may not be
started is what the search is told to have failed of, wherever it was, and otherwise the last
place tells. -/
def findProgram (tree : Tree) (name : String) (failure : SystemFault) :
    List String → Except SystemFault String
  | [] => .error failure
  | place :: places =>
      match programAt tree ((Path.mk place).inside name) with
      | .ok program => .ok program
      | .error fault =>
          if fault.isPassedOver then
            findProgram tree name (if failure = .permissionDenied then failure else fault) places
          else .error fault

/-- The program that a word names: by a path when it has a slash, and otherwise by a name that
is looked for. -/
def programNamed (environment : List (String × String)) (tree : Tree) (word : String) :
    Except SystemFault String :=
  if word = "" then .error .notFound
  else if '/' ∈ word.toList then programAt tree ⟨word⟩
  else if Tree.nameLimit < word.utf8ByteSize then .error .nameTooLong
  else findProgram tree word .nowhereToLook (reachablePlaces (searchPlaces environment))

def lengthsGiven (environment : List (String × String)) (words : List String) : List Nat :=
  words.map String.utf8ByteSize
    ++ environment.map fun (name, value) => name.utf8ByteSize + 1 + value.utf8ByteSize

def startIsolated (environment : List (String × String)) (word : String)
    (arguments : List String) (tree : Tree) : Except SystemFault ProgramRun × Tree :=
  if (word :: arguments).any fun text => '\x00' ∈ text.toList then (.error .zeroByte, tree)
  else match programNamed environment tree word with
    | .error fault => (.error fault, tree)
    | .ok program =>
        if canBeGiven (lengthsGiven environment (word :: arguments)) then
          let (run, after) := Shell.runProgram environment tree program (word :: arguments)
          (.ok run, after)
        else (.error .tooMuchGiven, tree)

def dialIsolated (address : String) : Except SystemFault String :=
  match Text.cutLast (· = ':') address.toList with
  | none => .error .invalidAddress
  | some (host, port) =>
      match Address.port? port with
      | none => .error .invalidPort
      | some _ =>
          if Address.isKnown host port then .error .networkUnreachable
          else if Address.isName host then .error .unknownHost
          else .error .notAHostName

/-- The host, whose state is the tree. -/
def Host.isolated (environment : List (String × String)) : Host Tree :=
  ⟨startIsolated environment, fun address tree => (dialIsolated address, tree)⟩

end AccessWeave
