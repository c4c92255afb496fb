import AccessWeave.Host.Program
import AccessWeave.Policy.Decision

/-!
The guarded operations themselves. Each asks the guard from inside a frame of the runtime,
as woven code does, and goes on only if the guard allows it. An operation is performed in a state
of the host, and a refused one leaves that state as it is.
-/

namespace AccessWeave

inductive GuardedError
  | guard (error : GuardError)
  /-- Allowed, and then failed. -/
  | system (fault : SystemFault)
  deriving DecidableEq, Repr

namespace GuardedError

def message : GuardedError → String
  | guard error => error.message
  | system fault => fault.message

def causes : GuardedError → List String
  | guard error => error.message :: error.causes
  | system fault => [fault.message]

end GuardedError

namespace Engine

variable {State : Type}

def guarded {Result : Type} (engine : Engine) (operation : Operation) (symbol : String)
    (perform : State → Except SystemFault Result × State) (state : State) :
    ShadowStack → (Except GuardedError Result × State) × ShadowStack :=
  engine.walker.within (.runtime symbol) fun stack =>
    match engine.guardPermission operation.key stack with
    | (.error error, after) => ((.error (.guard error), state), after)
    | (.ok (), after) => ((perform state).map (Except.mapError .system) id, after)

/-- Ends the process: the status it ends with, unless the guard refuses. -/
def exit (engine : Engine) (status : Int) : ShadowStack → Except GuardError Int × ShadowStack :=
  engine.walker.within (.runtime "java.lang.Runtime.exit") fun stack =>
    match engine.guardPermission Operation.runtimeExit.key stack with
    | (.error error, after) => (.error error, after)
    | (.ok (), after) => (.ok status, after)

def spawn (engine : Engine) (host : Host State) (program : String) (arguments : List String)
    (state : State) : ShadowStack → (Except GuardedError ProgramRun × State) × ShadowStack :=
  engine.guarded .processStart "java.lang.ProcessBuilder.start" (host.start program arguments)
    state

def connect (engine : Engine) (host : Host State) (address : String) (state : State) :
    ShadowStack → (Except GuardedError String × State) × ShadowStack :=
  engine.guarded .socketConnect "java.net.Socket.connect" (host.dial address) state

end Engine

end AccessWeave
