import AccessWeave.Host.Program
import AccessWeave.Text.Octets

/-!
What the processes that a script starts have in common: the files and directories, what has
been written to the two outputs, the files and pipes that are open, which processes there are,
and the signals that have been sent. One process runs at a time; while it does, the world says
what the others hold open. Texts have a character for each byte.
-/

namespace AccessWeave.Shell

inductive Stream
  | output
  | errors
  /-- Nothing to read, and what is written is lost. -/
  | nothing
  | directory
  /-- Nothing can be written for want of room. -/
  | full
  | file (location : Location)
  | text (held : String)
  | pipe (number : Nat)
  deriving DecidableEq, Repr

structure OpenFile where
  stream : Stream
  /-- How far reading and writing have come. -/
  place : Nat
  reads : Bool
  writes : Bool
  appends : Bool
  deriving DecidableEq, Repr

structure Pipe where
  front : List Char
  /-- What has been written after that, the last first. -/
  back : List String
  size : Nat
  deriving DecidableEq, Repr

namespace Pipe

def empty : Pipe := ⟨[], [], 0⟩

def capacity : Nat := 65536

def room (pipe : Pipe) : Nat := capacity - pipe.size

def put (pipe : Pipe) (text : String) : Pipe :=
  { pipe with back := text :: pipe.back, size := pipe.size + text.length }

/-- A pipe with something in front, if there is anything in it. -/
def readied (pipe : Pipe) : Pipe :=
  if pipe.front.isEmpty then
    { pipe with front := pipe.back.reverse.flatMap String.toList, back := [] }
  else pipe

def drop (pipe : Pipe) (count : Nat) : Pipe :=
  { pipe with front := pipe.front.drop count, size := pipe.size - count }

end Pipe

/-- A process in the background that has ended and that its parent has not asked about. -/
structure EndedProcess where
  parent : Nat
  process : Nat
  status : ExitStatus
  deriving DecidableEq, Repr

structure World where
  tree : Tree
  opened : List (Nat × OpenFile)
  pipes : List (Nat × Pipe)
  output : String
  errors : String
  nextOpened : Nat
  nextProcess : Nat
  /-- The processes that are there: those that run, and those whose end nobody has asked for. -/
  present : List Nat
  ended : List EndedProcess
  /-- Processes and the signals that they have been sent but not received. -/
  sent : List (Nat × Nat)
  heldByOthers : List Nat
  isAlone : Bool
  /-- How many more commands the process can run before it is the turn of others. -/
  turn : Nat
  deriving Repr

namespace World

def inputNumber : Nat := 0

def outputNumber : Nat := 1

def errorsNumber : Nat := 2

def firstProcess : Nat := 1000

def turnLength : Nat := 500

def ofTree (tree : Tree) : World :=
  { tree
    opened :=
      [(inputNumber, ⟨.nothing, 0, true, true, false⟩),
       (outputNumber, ⟨.output, 0, true, true, false⟩),
       (errorsNumber, ⟨.errors, 0, true, true, false⟩)]
    pipes := []
    output := ""
    errors := ""
    nextOpened := 3
    nextProcess := firstProcess + 1
    present := [firstProcess, firstProcess - 1, 1]
    ended := []
    sent := []
    heldByOthers := []
    isAlone := true
    turn := turnLength }

def opened? (world : World) (number : Nat) : Option OpenFile := world.opened.lookup number

def putOpened (world : World) (number : Nat) (file : OpenFile) : World :=
  { world with
    opened := (number, file) :: world.opened.filter fun entry => entry.1 ≠ number }

def add (world : World) (file : OpenFile) : Nat × World :=
  (world.nextOpened,
    { world with
      opened := (world.nextOpened, file) :: world.opened, nextOpened := world.nextOpened + 1 })

def pipeAt (world : World) (pipe : Nat) : Pipe := (world.pipes.lookup pipe).getD .empty

def putPipe (world : World) (number : Nat) (pipe : Pipe) : World :=
  { world with pipes := (number, pipe) :: world.pipes.filter fun entry => entry.1 ≠ number }

def addPipe (world : World) : Nat × Nat × World :=
  let pipe := world.nextOpened
  let (reading, world) := world.add ⟨.pipe pipe, 0, true, false, false⟩
  let (writing, world) := world.add ⟨.pipe pipe, 0, false, true, false⟩
  (reading, writing, world.putPipe pipe .empty)

/-- Forgets the open files from a number on, but for those that somebody holds open. -/
def closeFrom (world : World) (number : Nat) (held : List Nat) : World :=
  let opened := world.opened.filter fun entry =>
    entry.1 < number || entry.1 ∈ held || entry.1 ∈ world.heldByOthers
  let pipes :=
    if world.pipes.isEmpty then [] else world.pipes.filter fun entry =>
      opened.any fun file => file.2.stream = .pipe entry.1
  { world with opened, pipes }

def bytesAt (world : World) (location : Location) : List UInt8 :=
  ((world.tree.entryAt? location).bind Entry.bytes?).getD []

def overwritten (bytes : List UInt8) (place : Nat) (others : List UInt8) : List UInt8 :=
  let after := bytes.drop (place + others.length)
  bytes.take place ++ (List.replicate (place - bytes.length) 0 ++ (others ++ after))

/-- Writes a text to an open file, if that can be written to. A pipe takes any text here. -/
def write? (world : World) (number : Nat) (text : String) : Option World := do
  let file ← world.opened? number
  if file.writes = false then none
  match file.stream with
  | .output => some { world with output := world.output ++ text }
  | .errors => some { world with errors := world.errors ++ text }
  | .nothing => some world
  | .directory => none
  | .full => if text.isEmpty then some world else none
  | .file location =>
      let bytes := world.bytesAt location
      let place := if file.appends then bytes.length else file.place
      let added := Text.bytesOfOctets text
      let stored :=
        { world with tree := world.tree.store location (overwritten bytes place added) }
      some (stored.putOpened number { file with place := place + added.length })
  | .text held => some (world.putOpened number { file with stream := .text (held ++ text) })
  | .pipe pipe => some (world.putPipe pipe ((world.pipeAt pipe).put text))

/-- At most so many characters of what there is to read of an open file. -/
def unread (world : World) (number limit : Nat) : List Char :=
  match world.opened? number with
  | none => []
  | some file =>
      if file.reads = false then []
      else match file.stream with
        | .file location =>
            (((world.bytesAt location).drop file.place).take limit).map Text.octet
        | .text held => (held.toList.drop file.place).take limit
        | .pipe pipe => (world.pipeAt pipe).readied.front.take limit
        | _ => []

def advance (world : World) (number count : Nat) : World :=
  match world.opened? number with
  | none => world
  | some file =>
      match file.stream with
      | .pipe pipe => world.putPipe pipe ((world.pipeAt pipe).readied.drop count)
      | _ => world.putOpened number { file with place := file.place + count }

def heldText (world : World) (number : Nat) : String :=
  match (world.opened? number).map OpenFile.stream with
  | some (.text held) => held
  | _ => ""

def pipeOf? (world : World) (number : Nat) : Option Nat :=
  match (world.opened? number).map OpenFile.stream with
  | some (.pipe pipe) => some pipe
  | _ => none

/-- Whether one of some open files is an end of a pipe, for reading or for writing. -/
def holdsEnd (world : World) (pipe : Nat) (isEnd : OpenFile → Bool) (numbers : List Nat) : Bool :=
  numbers.any fun number =>
    (world.opened? number).any fun file => file.stream = .pipe pipe && isEnd file

def begin (world : World) : World :=
  { world with
    nextProcess := world.nextProcess + 1
    present := world.nextProcess :: world.present }

def forget (world : World) (processes : List Nat) : World :=
  { world with
    present := world.present.filter (· ∉ processes)
    ended := world.ended.filter fun entry => entry.process ∉ processes
    sent := world.sent.filter fun entry => entry.1 ∉ processes }

/-- Forgets the processes whose ends only a process that is over could have asked for. -/
def orphan (world : World) (process : Nat) : World :=
  if world.ended.isEmpty then world
  else world.forget ((world.ended.filter fun entry => entry.parent = process).map
    EndedProcess.process)

def send (world : World) (process signal : Nat) : World :=
  { world with sent := world.sent ++ [(process, signal)] }

def isRunning (world : World) (process : Nat) : Bool :=
  process ∈ world.present && !world.ended.any fun entry => entry.process = process

/-- Ends a process in the background. Its parent is told, if it still runs. -/
def conclude (world : World) (ending : EndedProcess) : World :=
  let world := world.orphan ending.process
  if world.isRunning ending.parent then
    { world with ended := ending :: world.ended }.send ending.parent Signal.childEnded
  else world.forget [ending.process]

def receive (world : World) (process : Nat) : List Nat × World :=
  ((world.sent.filter fun entry => entry.1 = process).map Prod.snd,
    { world with sent := world.sent.filter fun entry => entry.1 ≠ process })

end World

end AccessWeave.Shell
