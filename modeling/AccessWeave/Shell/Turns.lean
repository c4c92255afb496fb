import AccessWeave.Shell.Process

/-!
The turns of processes. One runs until it ends or pauses; then it is the turn of the next one. A
process that has started another one goes on first, and when one ends, a parent that waits for
it goes on before the others. When none of them can go on, nothing more happens. What is in the
background when the first process has ended gets some more turns.
-/

namespace AccessWeave.Shell

structure Task where
  process : Nat
  parent : Nat
  held : List Nat
  isWaiting : Bool
  go : World → Course ExitStatus

namespace Task

def ofChild (engine : Engine) (child : Child) : Task where
  process := child.state.process
  parent := child.state.parent
  held := child.state.held
  isWaiting := false
  go world :=
    Process.conclude engine (do
        Redirecting.leadAll (Process.filler engine) false child.targets
        engine.run child.position child.command)
      { child.state with world }

def ofAction (state : State) (action : Action ExitStatus) : Task where
  process := state.process
  parent := state.parent
  held := state.held
  isWaiting := false
  go world := action { state with world }

end Task

structure Turns where
  /-- The processes in the order of their turns. -/
  tasks : List Task
  world : World
  ended : List (Nat × ExitStatus)
  /-- How many processes in a row could not go on. -/
  idle : Nat

namespace Turns

/-- How often it can be a process's turn after the first one has ended. -/
def lastTurns : Nat := 1000

def between (world : World) (held : List Nat) : World :=
  let world := { world with turn := World.turnLength }
  world.closeFrom (World.errorsNumber + 1) held

/-- Puts a process in front of others, if it waits for them, but not of those that have been sent
signals other than about the end of a process. -/
def inFront (world : World) (process : Nat) (tasks : List Task) : List Task :=
  let isMeant (task : Task) : Bool := task.process = process && task.isWaiting
  let isSent (task : Task) : Bool :=
    world.sent.any fun entry => entry.1 = task.process && entry.2 ≠ Signal.childEnded
  let others := tasks.filter fun task => !isMeant task
  others.filter isSent ++ tasks.filter isMeant ++ others.filter fun task => !isSent task

/-- The first of some processes has its turn. When it ends, it is the turn of its parent if that
waits. -/
def turn (engine : Engine) (turns : Turns) (task : Task) (others : List Task) : Turns :=
  let heldByOthers := others.flatMap Task.held
  match task.go { turns.world with heldByOthers, isAlone := others.isEmpty } with
  | .ended result after =>
      let status := Process.statusAfter result after
      let world := after.world.conclude ⟨task.parent, task.process, status⟩
      { tasks := inFront world task.parent others
        world := between world []
        ended := (task.process, status) :: turns.ended
        idle := 0 }
  | .paused (.started child) held world go =>
      { turns with
        tasks := { task with held, go } :: others ++ [Task.ofChild engine child], world, idle := 0 }
  | .paused .turn held world go =>
      { turns with
        tasks := others ++ [{ task with held, go, isWaiting := false }]
        world := between world held
        idle := 0 }
  | .paused .waits held world go =>
      { turns with
        tasks := others ++ [{ task with held, go, isWaiting := true }]
        world := between world held
        idle := 0 }
  | .paused .blocked held world go =>
      { turns with
        tasks := others ++ [{ task with held, go }]
        world := between world held
        idle := turns.idle + 1 }

/-- Processes have their turns, at most so many of them, until none is left or can go on or the
one that is watched has ended. -/
def run (engine : Engine) (watched : Nat) : Nat → Turns → Turns
  | 0, turns => turns
  | rounds + 1, turns =>
      match turns.tasks with
      | [] => turns
      | task :: others =>
          if (turns.ended.lookup watched).isSome || others.length < turns.idle then turns
          else run engine watched rounds (turn engine turns task others)

/-- Runs an action as the first process, and then what it leaves behind; how it ends, and the
world at last. -/
def finish (engine : Engine) (state : State) (action : Action ExitStatus) : ExitStatus × World :=
  let turns : Turns := ⟨[Task.ofAction state action], state.world, [], 0⟩
  let turns := run engine state.process Action.patience turns
  let status := (turns.ended.lookup state.process).getD (.signaled Signal.kill)
  (status, (run engine 0 lastTurns turns).world)

end Turns

end AccessWeave.Shell
