import AccessWeave.Host.Signal
import AccessWeave.Shell.Builtin.Variables

/-!
Jobs in the background. The shell takes notice of an end when it waits for something; only when it
waits for the job itself does it tell that a signal has ended it. A job that has ended and been
waited for makes room when the next process is started.
-/

namespace AccessWeave.Shell.Builtin

/-- The number of the first signal of those without names of their own, and of the last. -/
def firstNameless : Nat := 34

def signalDescription (signal : Nat) : String :=
  let descriptions :=
    ["Hangup", "Interrupt", "Quit", "Illegal instruction", "Trace/breakpoint trap", "Aborted",
     "Bus error", "Floating point exception", "Killed", "User defined signal 1",
     "Segmentation fault", "User defined signal 2", "Broken pipe", "Alarm clock", "Terminated",
     "Stack fault", "Child exited", "Continued", "Stopped (signal)", "Stopped",
     "Stopped (tty input)", "Stopped (tty output)", "Urgent I/O condition",
     "CPU time limit exceeded", "File size limit exceeded", "Virtual timer expired",
     "Profiling timer expired", "Window changed", "I/O possible", "Power failure",
     "Bad system call"]
  match descriptions[signal - 1]? with
  | some description => description
  | none =>
      if signal < firstNameless then "Unknown signal " ++ toString signal
      else "Real-time signal " ++ toString (signal - firstNameless)

def statusOf : ExitStatus → Nat
  | .exited code => code
  | .signaled signal => 128 + signal

/-- Tells that a signal has ended a process, unless it is one that usually does. -/
def announce (status : ExitStatus) : Action Unit := do
  match status with
  | .signaled signal =>
      if signal ≠ 2 ∧ signal ≠ 13 then Action.write 2 (signalDescription signal ++ "\n")
  | .exited _ => return

def endedOf (state : State) : List EndedProcess :=
  (state.world.ended.filter fun ending => ending.parent = state.process).reverse

def told (endings : List EndedProcess) (job : Job) : Job :=
  { job with
    statuses := job.statuses ++ (endings.filter fun ending => ending.process ∈ job.processes).map
      fun ending => (ending.process, ending.status) }

def notice : Action Unit := modify fun state =>
  let endings := (endedOf state).filter fun ending =>
    state.jobs.any fun job => ending.process ∈ job.processes
  if endings.isEmpty then state
  else
    { state with
      jobs := state.jobs.map (told endings)
      world := state.world.forget (endings.map EndedProcess.process) }

/-- The first free number for a job, from one on, and the jobs that are left then. -/
def freeNumber (jobs : List Job) : Nat → Nat → Nat × List Job
  | 0, number => (number, jobs)
  | steps + 1, number =>
      match jobs.find? fun job => job.number = number with
      | none => (number, jobs)
      | some job =>
          if job.isDone && job.isWaitedFor then
            (number, jobs.filter fun other => other.number ≠ number)
          else freeNumber jobs steps (number + 1)

def makeRoom : Action Nat := do
  let jobs := (← get).jobs
  if jobs.isEmpty then return 1
  let (number, left) := freeNumber jobs (jobs.length + 1) 1
  modify fun state => { state with jobs := left }
  return number

def noteJob (number : Nat) (processes : List Nat) : Action Unit := modify fun state =>
  { state with
    lastBackground := processes.getLast?
    jobs := ⟨number, processes, [], false⟩ :: state.jobs }

def changeJob (number : Nat) (change : Job → Job) : Action Unit := modify fun state =>
  { state with
    jobs := state.jobs.map fun job => if job.number = number then change job else job }

/-- The job that a word tells: the latest, the one before, or one by its number. -/
def jobOf (word : Option String) : Action Job := do
  let jobs := (← get).jobs
  match word.map String.toList with
  | none | some ['%'] | some ['%', '%'] | some ['%', '+'] =>
      match jobs with
      | job :: _ => return job
      | [] => Action.fail "No current job"
  | some ['%', '-'] =>
      match jobs with
      | _ :: job :: _ => return job
      | _ => Action.fail "No previous job"
  | some characters =>
      let number? := (String.ofList characters.tail).toNat?
      match jobs.find? fun job => characters.head? = some '%' && some job.number = number? with
      | some job => return job
      | none => Action.fail ("No such job: " ++ String.ofList characters)

/-- Waits for a job, in at most so many steps; its status, or else the signal that came instead. -/
def waitForJob (number : Nat) : Nat → Action (Except Nat Nat)
  | 0 => return .ok 127
  | steps + 1 => do
      let state ← get
      match state.jobs.find? fun job => job.number = number with
      | none => return .ok 127
      | some job =>
          let endings := (endedOf state).filter fun ending => ending.process ∈ job.processes
          notice
          endings.forM fun ending => announce ending.status
          let job := told endings job
          if job.isDone then
            changeJob number fun job => { job with isWaitedFor := true }
            return .ok ((job.status?.map statusOf).getD 127)
          match ← Action.waitUntil fun state => !(endedOf state).isEmpty with
          | some signal => return .error signal
          | none => waitForJob number steps

def waitForAll : Nat → Action Nat
  | 0 => return 0
  | steps + 1 => do
      notice
      modify fun state =>
        { state with
          jobs := state.jobs.map fun job =>
            if job.isDone then { job with isWaitedFor := true } else job }
      if (← get).jobs.all Job.isDone then return 0
      match ← Action.waitUntil fun state => !(endedOf state).isEmpty with
      | some signal => return 128 + signal
      | none => waitForAll steps

/-- Waits for jobs one after the other; the status of the last that is known. A signal ends it. -/
def waitForEach : Nat → List String → Action Nat
  | status, [] => return status
  | status, word :: words => do
      let job? ←
        if word.toList.head? = some '%' then pure (some (← jobOf (some word)))
        else
          let process ← countOf word
          pure ((← get).jobs.find? fun job => job.process = process)
      match job? with
      | none => waitForEach status words
      | some job =>
          match ← waitForJob job.number Action.patience with
          | .error signal => return 128 + signal
          | .ok status => waitForEach status words

def wait (words : List String) : Action Nat := do
  let given ← withoutLetters words
  if given.isEmpty then waitForAll Action.patience else waitForEach 127 given

/-- Jobs are not in control of the terminal, so that none can be taken up again. -/
def resume (words : List String) : Action Nat := do
  let _ ← jobOf words.head?
  Action.fail ("job " ++ words.head?.getD "(null)" ++ " not created under job control")

def standing (job : Job) : String :=
  match if job.isDone then job.status? else none with
  | none => "Running"
  | some (.exited 0) => "Done"
  | some (.exited code) => "Done(" ++ toString code ++ ")"
  | some (.signaled signal) => signalDescription signal

def standingWidth : Nat := 33

def jobLine (jobs : List Job) (showsProcesses : Bool) (job : Job) : String :=
  let mark :=
    if (jobs.head?.map Job.number) = some job.number then "+"
    else if (jobs.tail.head?.map Job.number) = some job.number then "-"
    else " "
  let head := "[" ++ toString job.number ++ "] " ++ mark ++ " "
  let first := if showsProcesses then toString (job.processes.head?.getD 0) ++ " " else ""
  let text := head ++ first ++ standing job
  let blanks := "".pushn ' ' (max 1 (standingWidth - text.length))
  let others := job.processes.tail.map fun process =>
    if showsProcesses then
      let text := "".pushn ' ' head.length ++ toString process ++ " "
      " |\n" ++ text ++ "".pushn ' ' (standingWidth + 2 - text.length)
    else " | "
  text ++ blanks ++ String.join others ++ "\n"

/-- Shows a job. One that has ended is forgotten then. -/
def showJob (letter : Option Char) (job : Job) : Action Unit := do
  match letter with
  | some 'p' => Action.emit (toString (job.processes.head?.getD 0) ++ "\n")
  | _ =>
      Action.emit (jobLine (← get).jobs (letter = some 'l') job)
      if job.isDone then
        modify fun state =>
          { state with jobs := state.jobs.filter fun other => other.number ≠ job.number }

def jobs (words : List String) : Action Nat := do
  let (given, names) ← letters [('l', false), ('p', false)] words
  let letter := given.getLast?.map Prod.fst
  notice
  if names.isEmpty then (← get).jobs.forM (showJob letter)
  else names.forM fun name => do showJob letter (← jobOf (some name))
  return 0

end AccessWeave.Shell.Builtin
