import AccessWeave.Policy.Principal

/-!
Call stacks. A frame is entered when its code begins and left when the guard of the frame is
dropped. Either the frames are recorded on a shadow stack, or they are observed elsewhere and
entering records nothing. Dropping the guard of a recorded frame removes the innermost frame,
which is the guarded one only if guards are dropped in the reverse order of entering.
-/

namespace AccessWeave

structure Frame where
  /-- Nothing for code that belongs to no module. -/
  principal : Option Principal
  symbol : String
  deriving DecidableEq, Repr

def runtimeModule : Principal := ⟨"java.base"⟩

def supportModule : Principal := ⟨"callguard.bootstrap"⟩

namespace Frame

def ofModule (name symbol : String) : Frame := ⟨some ⟨name⟩, symbol⟩

def unnamed (symbol : String) : Frame := ⟨none, symbol⟩

def runtime (symbol : String) : Frame := ⟨some runtimeModule, symbol⟩

def support (symbol : String) : Frame := ⟨some supportModule, symbol⟩

def isTrusted (frame : Frame) : Bool :=
  match frame.principal with
  | none => false
  | some principal => principal = runtimeModule || principal = supportModule

end Frame

/-- Recorded frames, innermost first. -/
abbrev ShadowStack := List Frame

inductive Walker
  | shadow
  /-- From elsewhere; they never change. -/
  | observed (frames : List Frame)
  deriving DecidableEq, Repr

namespace Walker

def frames (walker : Walker) (stack : ShadowStack) : List Frame :=
  match walker with
  | shadow => stack
  | observed frames => frames

def enter (walker : Walker) (frame : Frame) (stack : ShadowStack) : ShadowStack :=
  match walker with
  | shadow => frame :: stack
  | observed _ => stack

def leave (walker : Walker) (stack : ShadowStack) : ShadowStack :=
  match walker with
  | shadow => stack.tail
  | observed _ => stack

def within {Result : Type} (walker : Walker) (frame : Frame)
    (run : ShadowStack → Result × ShadowStack) (stack : ShadowStack) :
    Result × ShadowStack :=
  let (result, after) := run (walker.enter frame stack)
  (result, walker.leave after)

end Walker

structure FrameGuard where
  /-- Whether dropping the guard removes nothing. -/
  detached : Bool
  deriving DecidableEq, Repr

def FrameGuard.text (guard : FrameGuard) : String :=
  "FrameGuard \x7b detached: " ++ (if guard.detached then "true" else "false") ++ " \x7d"

/-- A thread's frames and the guards that its code holds, by the order of entering. -/
structure Scopes where
  stack : ShadowStack
  /-- Nothing once the guard is dropped. -/
  guards : List (Option FrameGuard)
  deriving DecidableEq, Repr

namespace Scopes

def empty : Scopes := ⟨[], []⟩

/-- Enters a frame; the number of its guard. -/
def enter (scopes : Scopes) (walker : Walker) (frame : Frame) : Nat × Scopes :=
  let guard : FrameGuard := ⟨match walker with | .shadow => false | .observed _ => true⟩
  (scopes.guards.length, ⟨walker.enter frame scopes.stack, scopes.guards ++ [some guard]⟩)

def guard? (scopes : Scopes) (number : Nat) : Option FrameGuard :=
  (scopes.guards[number]?).join

/-- Drops a guard; whether it was held. -/
def release (scopes : Scopes) (number : Nat) : Bool × Scopes :=
  match scopes.guard? number with
  | none => (false, scopes)
  | some guard =>
      (true,
        ⟨if guard.detached then scopes.stack else scopes.stack.tail,
          scopes.guards.set number none⟩)

end Scopes

end AccessWeave
