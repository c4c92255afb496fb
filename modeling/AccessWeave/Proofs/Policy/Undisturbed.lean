import AccessWeave.Proofs.Policy.Decisions
import AccessWeave.Proofs.Policy.FrameLifetimes

/-!
# Checks leave no trace

Each layer of a check enters a frame and leaves it, whatever the answer. So when scopes are
nested, every check finds on the stack the frames of the scopes around it and leaves them there,
and its answer is the one it would have been given alone. Only to be allowed to end the process
cuts a run short.
-/

namespace AccessWeave

/-- What code can ask while it runs. The host is the one of that moment, in the state of that
moment. -/
inductive Question (State : Type)
  | guard (key : String)
  | decision (operation : Operation)
  | caller (skip : Int)
  | exit (status : Int)
  | spawn (host : Host State) (program : String) (arguments : List String) (state : State)
  | connect (host : Host State) (address : String) (state : State)

/-- What code is answered, with the state in which an operation leaves the host. -/
inductive Answer (State : Type)
  | guard (result : Except GuardError Unit)
  | decision (result : Except Denial Unit)
  | caller (result : Except InternalError (Option Principal))
  | exit (result : Except GuardError Int)
  | spawn (result : Except GuardedError ProgramRun × State)
  | connect (result : Except GuardedError String × State)

variable {State : Type}

/-- Whether nothing runs after the answer. -/
def Answer.endsProcess : Answer State → Bool
  | .exit (.ok _) => true
  | _ => false

def Engine.ask (engine : Engine) :
    Question State → ShadowStack → Answer State × ShadowStack
  | .guard key, stack => (engine.guardPermission key stack).map .guard id
  | .decision operation, stack => (engine.checkPermission operation stack).map .decision id
  | .caller skip, stack =>
      match skipOf skip with
      | .error error => (.caller (.error error), stack)
      | .ok skip => (engine.resolveCaller skip stack).map (fun caller => .caller (.ok caller)) id
  | .exit status, stack => (engine.exit status stack).map .exit id
  | .spawn host program arguments state, stack =>
      (engine.spawn host program arguments state stack).map .spawn id
  | .connect host address state, stack =>
      (engine.connect host address state stack).map .connect id

/-- Code whose scopes are nested: a scope holds the guard of its frame until its inside is
done. -/
inductive Activity (State : Type)
  | finished
  | asks (question : Question State) (later : Activity State)
  | scope (frame : Frame) (inside later : Activity State)

structure Asked (State : Type) where
  question : Question State
  before : ShadowStack
  answer : Answer State
  after : ShadowStack

namespace Activity

/-- What is asked in a run, in order, and the frames it leaves, unless the process has ended. -/
def run (engine : Engine) : Activity State → Scopes → List (Asked State) × Option Scopes
  | finished, scopes => ([], some scopes)
  | asks question later, scopes =>
      let (answer, after) := engine.ask question scopes.stack
      let asked : Asked State := ⟨question, scopes.stack, answer, after⟩
      if answer.endsProcess then ([asked], none)
      else
        let (log, final) := later.run engine { scopes with stack := after }
        (asked :: log, final)
  | scope frame inside later, scopes =>
      let (number, entered) := scopes.enter engine.walker frame
      match inside.run engine entered with
      | (log, none) => (log, none)
      | (log, some left) =>
          let (laterLog, final) := later.run engine (left.release number).2
          (log ++ laterLog, final)

/-- The questions of a text, each with the frames of the scopes around it, innermost first. -/
def sites : Activity State → ShadowStack → List (Question State × ShadowStack)
  | finished, _ => []
  | asks question later, outer => (question, outer) :: later.sites outer
  | scope frame inside later, outer => inside.sites (frame :: outer) ++ later.sites outer

end Activity

/-- A question asked with nothing on the stack but the frames around it, which stay there. -/
def Engine.askAlone (engine : Engine) (site : Question State × ShadowStack) : Asked State :=
  ⟨site.1, site.2, (engine.ask site.1 site.2).1, site.2⟩

/-- Whether all guards that were given out since are dropped, and the stack is as it was. -/
structure Settled (before after : Scopes) : Prop where
  stack : after.stack = before.stack
  guards : ∃ count, after.guards = before.guards ++ List.replicate count none

/-- Whether the answer to a question, asked alone, leaves anything to run. -/
def Engine.GoesOn (engine : Engine) (site : Question State × ShadowStack) : Prop :=
  (engine.askAlone site).answer.endsProcess = false

/-- What a run comes to where every question is answered as if it were asked alone. -/
inductive RunsAlone (engine : Engine) (sites : List (Question State × ShadowStack))
    (scopes : Scopes) : List (Asked State) × Option Scopes → Prop
  | returned {left : Scopes} (goOn : ∀ site ∈ sites, engine.GoesOn site)
      (settled : Settled scopes left) :
      RunsAlone engine sites scopes (sites.map engine.askAlone, some left)
  | ended (earlier later : List (Question State × ShadowStack))
      (last : Question State × ShadowStack)
      (split : sites = earlier ++ last :: later) (goOn : ∀ site ∈ earlier, engine.GoesOn site)
      (ends : ¬engine.GoesOn last) :
      RunsAlone engine sites scopes ((earlier ++ [last]).map engine.askAlone, none)

theorem Walker.within_keeps {Result : Type} {run : ShadowStack → Result × ShadowStack}
    (keeps : ∀ stack, (run stack).2 = stack) (walker : Walker) (frame : Frame)
    (stack : ShadowStack) : (walker.within frame run stack).2 = stack := by
  cases walker with
  | shadow => simp only [within, enter, leave, keeps, List.tail_cons]
  | observed frames => simp only [within, enter, leave, keeps]

namespace Engine

variable (engine : Engine)

theorem resolve_caller_keeps (skip : Nat) (stack : ShadowStack) :
    (engine.resolveCaller skip stack).2 = stack :=
  Walker.within_keeps (fun _ => rfl) _ _ _

theorem check_operation_keeps (operation : Operation) (skip : Nat) (stack : ShadowStack) :
    (engine.checkOperation operation skip stack).2 = stack :=
  Walker.within_keeps (engine.resolve_caller_keeps skip) _ _ _

theorem check_permission_keeps (operation : Operation) (stack : ShadowStack) :
    (engine.checkPermission operation stack).2 = stack :=
  Walker.within_keeps (engine.check_operation_keeps operation directSkip) _ _ _

theorem check_guarded_keeps (operation : Operation) (stack : ShadowStack) :
    (engine.checkGuarded operation stack).2 = stack :=
  Walker.within_keeps (engine.check_operation_keeps operation guardedSkip) _ _ _

theorem guard_permission_keeps (key : String) (stack : ShadowStack) :
    (engine.guardPermission key stack).2 = stack := by
  refine Walker.within_keeps (fun inner => ?_) _ _ _
  split
  · rfl
  · next operation _ => exact engine.check_guarded_keeps operation inner

theorem exit_keeps (status : Int) (stack : ShadowStack) :
    (engine.exit status stack).2 = stack := by
  refine Walker.within_keeps (fun inner => ?_) _ _ _
  have keeps := engine.guard_permission_keeps Operation.runtimeExit.key inner
  split <;> simpa only [*] using keeps

theorem guarded_keeps {Result : Type} (operation : Operation) (symbol : String)
    (perform : State → Except SystemFault Result × State) (state : State)
    (stack : ShadowStack) :
    (engine.guarded operation symbol perform state stack).2 = stack := by
  refine Walker.within_keeps (fun inner => ?_) _ _ _
  have keeps := engine.guard_permission_keeps operation.key inner
  split <;> simpa only [*] using keeps

theorem ask_keeps (question : Question State) (stack : ShadowStack) :
    (engine.ask question stack).2 = stack := by
  cases question with
  | guard key => exact engine.guard_permission_keeps key stack
  | decision operation => exact engine.check_permission_keeps operation stack
  | caller skip =>
      simp only [ask]
      split
      · rfl
      · next skip _ => exact engine.resolve_caller_keeps skip stack
  | exit status => exact engine.exit_keeps status stack
  | spawn host program arguments state => exact engine.guarded_keeps _ _ _ state stack
  | connect host address state => exact engine.guarded_keeps _ _ _ state stack

end Engine

namespace Settled

variable {scopes middle final : Scopes}

theorem refl (scopes : Scopes) : Settled scopes scopes :=
  ⟨rfl, 0, (List.append_nil _).symm⟩

theorem trans (first : Settled scopes middle) (second : Settled middle final) :
    Settled scopes final := by
  rcases first.guards with ⟨early, earlyGuards⟩
  rcases second.guards with ⟨late, lateGuards⟩
  refine ⟨second.stack.trans first.stack, early + late, ?_⟩
  rw [lateGuards, earlyGuards, List.append_assoc, List.replicate_append_replicate]

/-- Dropping the guard of a scope whose inside has settled takes its own frame away. -/
theorem leave {frame : Frame} (inside : Settled (scopes.enter .shadow frame).2 middle) :
    Settled scopes (middle.release scopes.guards.length).2 := by
  rcases inside with ⟨stack, count, guards⟩
  have held : middle.guard? scopes.guards.length = some ⟨false⟩ := by
    simp [Scopes.guard?, guards, Scopes.enter]
  rw [Scopes.release_held held]
  refine ⟨?_, count + 1, ?_⟩
  · rw [stack]
    rfl
  · rw [guards]
    simp [Scopes.enter, List.replicate_succ]

end Settled

namespace RunsAlone

variable {engine : Engine} {sites laterSites : List (Question State × ShadowStack)}
  {site : Question State × ShadowStack} {scopes middle : Scopes}
  {rest : List (Asked State) × Option Scopes}

theorem asks (goesOn : engine.GoesOn site) (later : RunsAlone engine sites scopes rest) :
    RunsAlone engine (site :: sites) scopes (engine.askAlone site :: rest.1, rest.2) := by
  cases later with
  | returned goOn settled =>
      exact .returned (List.forall_mem_cons.mpr ⟨goesOn, goOn⟩) settled
  | ended earlier later last split goOn ends =>
      refine .ended (site :: earlier) later last ?_ ?_ ends
      · rw [split, List.cons_append]
      · exact List.forall_mem_cons.mpr ⟨goesOn, goOn⟩

theorem ends_with (ends : ¬engine.GoesOn site) :
    RunsAlone engine (site :: laterSites) scopes ([engine.askAlone site], none) :=
  .ended [] laterSites site rfl nofun ends

/-- A run that was cut short never gets to what stands behind it. -/
theorem cut {log : List (Asked State)} (inside : RunsAlone engine sites middle (log, none)) :
    RunsAlone engine (sites ++ laterSites) scopes (log, none) := by
  cases inside with
  | ended earlier later last split goOn ends =>
      refine .ended earlier (later ++ laterSites) last ?_ goOn ends
      rw [split, List.append_assoc, List.cons_append]

/-- A run that goes on where another one has settled. -/
theorem append (goOn : ∀ site ∈ sites, engine.GoesOn site) (settled : Settled scopes middle)
    (later : RunsAlone engine laterSites middle rest) :
    RunsAlone engine (sites ++ laterSites) scopes
      (sites.map engine.askAlone ++ rest.1, rest.2) := by
  cases later with
  | returned laterGoOn laterSettled =>
      rw [← List.map_append]
      exact .returned (List.forall_mem_append.mpr ⟨goOn, laterGoOn⟩)
        (settled.trans laterSettled)
  | ended earlier later last split laterGoOn ends =>
      rw [← List.map_append, ← List.append_assoc]
      refine .ended (sites ++ earlier) later last ?_ ?_ ends
      · rw [split, List.append_assoc]
      · exact List.forall_mem_append.mpr ⟨goOn, laterGoOn⟩

theorem asked_alone {outcome : List (Asked State) × Option Scopes}
    (runs : RunsAlone engine sites scopes outcome) :
    ∀ asked ∈ outcome.1, ∃ site, asked = engine.askAlone site := by
  intro asked among
  cases runs with
  | returned goOn settled =>
      rcases List.mem_map.mp among with ⟨site, _, rfl⟩
      exact ⟨site, rfl⟩
  | ended earlier later last split goOn ends =>
      rcases List.mem_map.mp among with ⟨site, _, rfl⟩
      exact ⟨site, rfl⟩

end RunsAlone

/-- Every question of a run finds the frames of the scopes around it, for what ran before has
settled. -/
theorem Activity.runs_alone (catalog : Catalog) (activity : Activity State) (scopes : Scopes) :
    RunsAlone ⟨catalog, .shadow⟩ (activity.sites scopes.stack) scopes
      (activity.run ⟨catalog, .shadow⟩ scopes) := by
  induction activity generalizing scopes with
  | finished => exact .returned nofun (.refl scopes)
  | asks question later induction =>
      have alone : Asked.mk question scopes.stack
          ((Engine.mk catalog .shadow).ask question scopes.stack).1
          ((Engine.mk catalog .shadow).ask question scopes.stack).2 =
            (Engine.mk catalog .shadow).askAlone (question, scopes.stack) := by
        rw [Engine.ask_keeps, Engine.askAlone]
      rw [run, sites]
      dsimp only
      rw [alone, Engine.ask_keeps]
      split
      · next ends => exact .ends_with (by simpa [Engine.GoesOn, Engine.askAlone] using ends)
      · next goesOn =>
          exact (induction scopes).asks (by simpa [Engine.GoesOn, Engine.askAlone] using goesOn)
  | scope frame inside later inner outer =>
      have innerRun := inner (scopes.enter .shadow frame).2
      rw [run, sites]
      dsimp only
      split
      · next log ran =>
          rw [ran] at innerRun
          exact innerRun.cut
      · next log left ran =>
          rw [ran] at innerRun
          cases innerRun with
          | returned goOn settled =>
              -- What ran inside has settled on top of the frame, so that the guard of this scope
              -- takes the frame itself away.
              have outside := settled.leave
              have laterRun := outer (left.release scopes.guards.length).2
              rw [outside.stack] at laterRun
              exact laterRun.append goOn outside

/-- Whatever the answer, a check leaves the stack as it was; the questions of a run find the
frames of the scopes around them and are answered as if they were asked alone, until the process
ends; and two questions asked inside the same scopes, in runs of any kind, have the same
answer. -/
theorem checks_leave_no_trace {State : Type} (catalog : Catalog) (activity : Activity State)
    (scopes : Scopes) :
    (∀ asked ∈ (activity.run ⟨catalog, .shadow⟩ scopes).1, asked.after = asked.before) ∧
      RunsAlone ⟨catalog, .shadow⟩ (activity.sites scopes.stack) scopes
        (activity.run ⟨catalog, .shadow⟩ scopes) ∧
      ∀ other otherScopes, ∀ asked ∈ (activity.run ⟨catalog, .shadow⟩ scopes).1,
        ∀ otherAsked ∈ (Activity.run ⟨catalog, .shadow⟩ other otherScopes).1,
          asked.question = otherAsked.question → asked.before = otherAsked.before →
            asked.answer = otherAsked.answer := by
  have runs := activity.runs_alone catalog scopes
  refine ⟨?_, runs, ?_⟩
  · intro asked among
    rcases runs.asked_alone asked among with ⟨site, rfl⟩
    rfl
  · intro other otherScopes asked among otherAsked otherAmong sameQuestion sameBefore
    rcases runs.asked_alone asked among with ⟨site, rfl⟩
    rcases (other.runs_alone catalog otherScopes).asked_alone otherAsked otherAmong with
      ⟨otherSite, rfl⟩
    have sameSite : site = otherSite := Prod.ext sameQuestion sameBefore
    rw [sameSite]

/-- A plugin is refused and uses an unknown key; its caller starts a program that does not exist
and then ends the process. -/
def pluginRun : Activity Nat :=
  .scope (.ofModule "app.x" "app.x.Main.main")
    (.scope (.unnamed "Plugin.stop")
      (.asks (.guard "Runtime.exit") (.asks (.guard "Runtime.halt") .finished))
      (.asks (.spawn Engine.bareHost "ls" [] 0)
        (.asks (.exit 3) (.asks (.guard "Runtime.exit") .finished))))
    .finished

theorem plugin_run_leaves_no_trace :
    ((pluginRun.run ⟨Engine.pluginCatalog.grant .processStart ⟨"app.x"⟩, .shadow⟩
        .empty).1.map Asked.answer =
      [.guard (.error (.denied ⟨.runtimeExit, none⟩)),
        .guard (.error (.internal (.unknownOperation "Runtime.halt"))),
        .spawn (.error (.system .notFound), 1), .exit (.ok 3)]) ∧
      ∀ asked ∈ (pluginRun.run ⟨Engine.pluginCatalog.grant .processStart ⟨"app.x"⟩,
        .shadow⟩ .empty).1, asked.after = asked.before :=
  ⟨rfl, (checks_leave_no_trace _ pluginRun .empty).1⟩

end AccessWeave
