/-!
Signals by number and by name. A signal has a number from one to sixty-four; those up to
thirty-one have names. Most of them end a program that has made no arrangements, the others
leave it as it is or make it wait for another one.
-/

namespace AccessWeave.Signal

/-- The names of the signals from number one on. -/
def names : List String :=
  ["HUP", "INT", "QUIT", "ILL", "TRAP", "ABRT", "BUS", "FPE", "KILL", "USR1", "SEGV", "USR2",
   "PIPE", "ALRM", "TERM", "STKFLT", "CHLD", "CONT", "STOP", "TSTP", "TTIN", "TTOU", "URG",
   "XCPU", "XFSZ", "VTALRM", "PROF", "WINCH", "IO", "PWR", "SYS"]

def greatest : Nat := 64

def terminate : Nat := 15

def kill : Nat := 9

def arithmeticFault : Nat := 8

def memoryFault : Nat := 11

def brokenPipe : Nat := 13

def childEnded : Nat := 17

def interrupts : List Nat := [2, 3]

def name? : Nat → Option String
  | 0 => none
  | number + 1 => names[number]?

/-- Whether a signal ends a program that has made no arrangements. Number zero is no signal
and only asks whether the program is there. -/
def endsProgram (number : Nat) : Bool :=
  0 < number && number ≤ greatest
    && (name? number).all fun name =>
      name ∉ ["CHLD", "CONT", "STOP", "TSTP", "TTIN", "TTOU", "URG", "WINCH"]

end AccessWeave.Signal
