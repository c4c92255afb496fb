import AccessWeave.Proofs.Policy.Attribution
import Mathlib.Data.List.Induction

/-!
# How long a frame stays on the stack

The guards of entered frames can be dropped in any order, but dropping one removes the innermost
frame, whichever that is. So the stack has as many frames as there are guards alive, and not
always the same frames: the two agree exactly as long as no guard is dropped before that of a
different frame entered later.
-/

namespace AccessWeave

/-- What code does to the frames of its thread. -/
inductive ScopeEvent
  | enter (frame : Frame)
  | drop (number : Nat)

def Scopes.step (scopes : Scopes) : ScopeEvent → Scopes
  | .enter frame => (scopes.enter .shadow frame).2
  | .drop number => (scopes.release number).2

def Scopes.after (scopes : Scopes) (events : List ScopeEvent) : Scopes :=
  events.foldl Scopes.step scopes

/-- The frames whose guards are alive, most recently entered first and each with the number of
its guard, and how many were entered so far. -/
structure Alive where
  entered : Nat
  held : List (Nat × Frame)

namespace Alive

def initial : Alive := ⟨0, []⟩

def frames (alive : Alive) : List Frame := alive.held.map Prod.snd

def step (alive : Alive) : ScopeEvent → Alive
  | .enter frame => ⟨alive.entered + 1, (alive.entered, frame) :: alive.held⟩
  | .drop number => ⟨alive.entered, alive.held.filter fun guarded => guarded.1 ≠ number⟩

def after (alive : Alive) (events : List ScopeEvent) : Alive := events.foldl Alive.step alive

/-- Whether the frames that were entered after the guard's own, and are alive, are the same as
its own. -/
def Innermost (alive : Alive) (number : Nat) : Prop :=
  ∀ frame, (number, frame) ∈ alive.held →
    ∀ later other, (later, other) ∈ alive.held → number < later → other = frame

end Alive

/-- Dropping any guard takes the frame on top. That is the guard's own frame, or an equal one,
if all frames above it are equal to it. -/
theorem top_removed_iff (head frame : Frame) (rest older : List Frame) :
    rest ++ frame :: older = head :: (rest ++ older) ↔ ∀ other ∈ head :: rest, other = frame := by
  induction rest generalizing head with
  | nil => simp [eq_comm]
  | cons next rest induction =>
      rw [List.cons_append, List.cons_append, List.cons.injEq, induction next]
      constructor
      · rintro ⟨rfl, same⟩
        exact List.forall_mem_cons.mpr ⟨same next List.mem_cons_self, same⟩
      · intro same
        rcases List.forall_mem_cons.mp same with ⟨headSame, restSame⟩
        exact ⟨(restSame next List.mem_cons_self).trans headSame.symm, restSame⟩

theorem own_frame_removed_iff (newer older : List Frame) (frame : Frame) :
    (newer ++ frame :: older).tail = newer ++ older ↔ ∀ other ∈ newer, other = frame := by
  cases newer with
  | nil => simp
  | cons head rest => exact top_removed_iff head frame rest older

/-- What the guards of a thread know about the frames that are alive. -/
structure Tracks (alive : Alive) (scopes : Scopes) : Prop where
  entered : scopes.guards.length = alive.entered
  newestFirst : alive.held.Pairwise fun newer older => older.1 < newer.1
  below : ∀ guarded ∈ alive.held, guarded.1 < alive.entered
  held : ∀ number, scopes.guard? number =
    if number ∈ alive.held.map Prod.fst then some ⟨false⟩ else none
  depth : scopes.stack.length = alive.held.length

/-- What is alive when one of the guards is dropped. -/
theorem Tracks.split {alive : Alive} {scopes : Scopes} (tracks : Tracks alive scopes)
    {number : Nat} (inside : number ∈ alive.held.map Prod.fst) :
    ∃ newer frame older, alive.held = newer ++ (number, frame) :: older ∧
      (∀ guarded ∈ newer, number < guarded.1) ∧ (∀ guarded ∈ older, guarded.1 < number) := by
  rcases List.mem_map.mp inside with ⟨⟨_, frame⟩, member, rfl⟩
  rcases List.append_of_mem member with ⟨newer, older, split⟩
  have ordered := tracks.newestFirst
  rw [split, List.pairwise_append, List.pairwise_cons] at ordered
  refine ⟨newer, frame, older, split, fun guarded among => ?_, ordered.2.1.1⟩
  exact ordered.2.2 guarded among _ List.mem_cons_self

theorem filter_unheld {held : List (Nat × Frame)} {number : Nat}
    (outside : number ∉ held.map Prod.fst) :
    held.filter (fun guarded => guarded.1 ≠ number) = held := by
  apply List.filter_eq_self.mpr
  intro guarded among
  have different : guarded.1 ≠ number := fun same => outside (List.mem_map.mpr ⟨_, among, same⟩)
  simpa using different

theorem drop_own {newer older : List (Nat × Frame)} {number : Nat} {frame : Frame}
    (above : ∀ guarded ∈ newer, number < guarded.1)
    (under : ∀ guarded ∈ older, guarded.1 < number) :
    (newer ++ (number, frame) :: older).filter (fun guarded => guarded.1 ≠ number) =
      newer ++ older := by
  have notNewer : number ∉ newer.map Prod.fst := by
    intro inside
    rcases List.mem_map.mp inside with ⟨guarded, among, rfl⟩
    exact Nat.lt_irrefl _ (above guarded among)
  have notOlder : number ∉ older.map Prod.fst := by
    intro inside
    rcases List.mem_map.mp inside with ⟨guarded, among, rfl⟩
    exact Nat.lt_irrefl _ (under guarded among)
  rw [List.filter_append, List.filter_cons_of_neg (by simp), filter_unheld notNewer,
    filter_unheld notOlder]

namespace Scopes

theorem release_held {scopes : Scopes} {number : Nat}
    (held : scopes.guard? number = some ⟨false⟩) :
    (scopes.release number).2 = ⟨scopes.stack.tail, scopes.guards.set number none⟩ := by
  simp [release, held]

theorem release_dropped {scopes : Scopes} {number : Nat}
    (dropped : scopes.guard? number = none) : (scopes.release number).2 = scopes := by
  simp [release, dropped]

theorem guard_after_enter (scopes : Scopes) (frame : Frame) (number : Nat) :
    (scopes.enter .shadow frame).2.guard? number =
      if number = scopes.guards.length then some ⟨false⟩ else scopes.guard? number := by
  simp only [enter, guard?]
  by_cases last : number = scopes.guards.length
  · rw [if_pos last, last, List.getElem?_concat_length, Option.join_some]
  · rw [if_neg last, List.getElem?_append]
    split
    · rfl
    · next beyond =>
        rw [List.getElem?_eq_none (by simp only [List.length_singleton]; omega),
          List.getElem?_eq_none (by omega)]

theorem guard_after_drop (scopes : Scopes) (stack : ShadowStack) (dropped number : Nat) :
    (Scopes.mk stack (scopes.guards.set dropped none)).guard? number =
      if number = dropped then none else scopes.guard? number := by
  simp only [guard?, List.getElem?_set]
  by_cases same : number = dropped
  · rw [if_pos same, if_pos same.symm]
    split <;> rfl
  · rw [if_neg same, if_neg (Ne.symm same)]

theorem after_snoc (scopes : Scopes) (events : List ScopeEvent) (event : ScopeEvent) :
    scopes.after (events ++ [event]) = (scopes.after events).step event := by
  simp [after]

end Scopes

theorem Alive.after_snoc (alive : Alive) (events : List ScopeEvent) (event : ScopeEvent) :
    alive.after (events ++ [event]) = (alive.after events).step event := by
  simp [after]

namespace Tracks

variable {alive : Alive} {scopes : Scopes}

theorem start : Tracks .initial .empty where
  entered := rfl
  newestFirst := List.Pairwise.nil
  below := nofun
  held number := by simp [Scopes.empty, Scopes.guard?, Alive.initial]
  depth := rfl

theorem enter (tracks : Tracks alive scopes) (frame : Frame) :
    Tracks (alive.step (.enter frame)) (scopes.step (.enter frame)) where
  entered := by simp [Alive.step, Scopes.step, Scopes.enter, tracks.entered]
  newestFirst := List.pairwise_cons.mpr ⟨tracks.below, tracks.newestFirst⟩
  below := by
    intro guarded among
    rcases List.mem_cons.mp among with rfl | before
    · exact Nat.lt_succ_self _
    · exact Nat.lt_succ_of_lt (tracks.below guarded before)
  held := by
    intro number
    rw [Scopes.step, Scopes.guard_after_enter, tracks.entered, tracks.held number]
    by_cases last : number = alive.entered
    · rw [if_pos last, if_pos (by simp [Alive.step, last])]
    · have before : number ∈ alive.held.map Prod.fst ↔
          number ∈ (alive.step (.enter frame)).held.map Prod.fst := by
        rw [Alive.step, List.map_cons, List.mem_cons, or_iff_right last]
      rw [if_neg last]
      exact if_congr before rfl rfl
  depth := by simp [Alive.step, Scopes.step, Scopes.enter, Walker.enter, tracks.depth]

theorem drop_held (tracks : Tracks alive scopes) {number : Nat}
    (inside : number ∈ alive.held.map Prod.fst) :
    scopes.step (.drop number) = ⟨scopes.stack.tail, scopes.guards.set number none⟩ :=
  Scopes.release_held (by rw [tracks.held, if_pos inside])

theorem drop_unheld (tracks : Tracks alive scopes) {number : Nat}
    (outside : number ∉ alive.held.map Prod.fst) :
    scopes.step (.drop number) = scopes ∧ alive.step (.drop number) = alive := by
  constructor
  · exact Scopes.release_dropped (by rw [tracks.held, if_neg outside])
  · rw [Alive.step, filter_unheld outside]

theorem drop (tracks : Tracks alive scopes) (number : Nat) :
    Tracks (alive.step (.drop number)) (scopes.step (.drop number)) := by
  by_cases inside : number ∈ alive.held.map Prod.fst
  · rcases tracks.split inside with ⟨newer, frame, older, split, above, under⟩
    rw [tracks.drop_held inside]
    -- Which frame leaves the stack is left open: only their number is tracked.
    refine ⟨?_, ?_, ?_, ?_, ?_⟩
    · rw [List.length_set, tracks.entered, Alive.step]
    · exact tracks.newestFirst.filter _
    · exact fun guarded among => tracks.below guarded (List.mem_filter.mp among).1
    · intro other
      rw [Scopes.guard_after_drop, tracks.held other]
      by_cases same : other = number
      · rw [if_pos same, if_neg (by simp [Alive.step, same])]
      · rw [if_neg same]
        refine if_congr ?_ rfl rfl
        simp only [Alive.step, List.mem_map, List.mem_filter]
        constructor
        · rintro ⟨guarded, among, rfl⟩
          exact ⟨guarded, ⟨among, by simpa using same⟩, rfl⟩
        · rintro ⟨guarded, ⟨among, _⟩, rfl⟩
          exact ⟨guarded, among, rfl⟩
    · have before := tracks.depth
      simp only [Alive.step, split, drop_own above under] at before ⊢
      simp only [List.length_tail, before, List.length_append, List.length_cons]
      omega
  · rw [(tracks.drop_unheld inside).1, (tracks.drop_unheld inside).2]
    exact tracks

theorem after (events : List ScopeEvent) :
    Tracks (Alive.initial.after events) (Scopes.empty.after events) := by
  induction events using List.reverseRecOn with
  | nil => exact start
  | append_singleton events event induction =>
      rw [Alive.after_snoc, Scopes.after_snoc]
      cases event with
      | enter frame => exact induction.enter frame
      | drop number => exact induction.drop number

theorem innermost_iff {newer older : List (Nat × Frame)} {number : Nat} {frame : Frame}
    (split : alive.held = newer ++ (number, frame) :: older)
    (above : ∀ guarded ∈ newer, number < guarded.1)
    (under : ∀ guarded ∈ older, guarded.1 < number) :
    alive.Innermost number ↔ ∀ other ∈ newer.map Prod.snd, other = frame := by
  have own : (number, frame) ∈ alive.held := by simp [split]
  constructor
  · intro innermost other among
    rcases List.mem_map.mp among with ⟨⟨later, _⟩, member, rfl⟩
    exact innermost frame own later _ (by simp [split, member]) (above _ member)
  · intro same ownFrame present later other among beyond
    have ownIs : ownFrame = frame := by
      rw [split, List.mem_append, List.mem_cons] at present
      rcases present with inNewer | here | inOlder
      · exact absurd (above _ inNewer) (Nat.lt_irrefl _)
      · exact (Prod.mk.inj here).2
      · exact absurd (under _ inOlder) (Nat.lt_irrefl _)
    rw [ownIs]
    rw [split, List.mem_append, List.mem_cons] at among
    rcases among with inNewer | here | inOlder
    · exact same other (List.mem_map.mpr ⟨_, inNewer, rfl⟩)
    · exact (Prod.mk.inj here).2
    · exact absurd (under _ inOlder) (Nat.lt_asymm beyond)

/-- Where the recorded frames are those alive, they stay so exactly if the dropped guard's frame
is innermost, or equal to all that are. -/
theorem drop_agrees_iff (tracks : Tracks alive scopes) (agree : scopes.stack = alive.frames)
    (number : Nat) :
    (scopes.step (.drop number)).stack = (alive.step (.drop number)).frames ↔
      alive.Innermost number := by
  by_cases inside : number ∈ alive.held.map Prod.fst
  · rcases tracks.split inside with ⟨newer, frame, older, split, above, under⟩
    rw [tracks.drop_held inside, agree, innermost_iff split above under]
    simp only [Alive.frames, Alive.step, split, drop_own above under, List.map_append,
      List.map_cons]
    exact own_frame_removed_iff _ _ frame
  · rw [(tracks.drop_unheld inside).1, (tracks.drop_unheld inside).2]
    refine iff_of_true agree fun frame present => ?_
    exact absurd (List.mem_map.mpr ⟨_, present, rfl⟩) inside

end Tracks

theorem enter_agrees {alive : Alive} {scopes : Scopes} (agree : scopes.stack = alive.frames)
    (frame : Frame) : (scopes.step (.enter frame)).stack = (alive.step (.enter frame)).frames :=
  congrArg (frame :: ·) agree

/-- There are always as many frames on the stack as guards alive, for each guard takes the
innermost frame with it when it is dropped. All through a thread's run the frames are those
whose guards are alive exactly if no guard is dropped while a different frame that was entered
later is alive. -/
theorem frames_are_alive_iff_dropped_in_order (events : List ScopeEvent) :
    (Scopes.empty.after events).stack.length = (Alive.initial.after events).frames.length ∧
      (∀ early number, early ++ [.drop number] <+: events →
        number ∈ (Alive.initial.after early).held.map Prod.fst →
          (Scopes.empty.after (early ++ [.drop number])).stack =
            (Scopes.empty.after early).stack.tail) ∧
      ((∀ early, early <+: events →
          (Scopes.empty.after early).stack = (Alive.initial.after early).frames) ↔
        ∀ early number, early ++ [.drop number] <+: events →
          (Alive.initial.after early).Innermost number) := by
  refine ⟨?_, ?_, ?_, ?_⟩
  · rw [(Tracks.after events).depth, Alive.frames, List.length_map]
  · intro early number _ inside
    rw [Scopes.after_snoc, (Tracks.after early).drop_held inside]
  · intro agree early number within
    have before := agree early ((List.prefix_append _ _).trans within)
    have behind := agree _ within
    rw [Scopes.after_snoc, Alive.after_snoc] at behind
    exact ((Tracks.after early).drop_agrees_iff before number).mp behind
  · intro inOrder early
    -- By induction on the part that has run: the frames agree before each event, and then the
    -- drop of an innermost frame keeps them in agreement.
    induction early using List.reverseRecOn with
    | nil => exact fun _ => rfl
    | append_singleton early event induction =>
        intro within
        have before := induction ((List.prefix_append _ _).trans within)
        rw [Scopes.after_snoc, Alive.after_snoc]
        cases event with
        | enter frame => exact enter_agrees before frame
        | drop number =>
            exact ((Tracks.after early).drop_agrees_iff before number).mpr
              (inOrder early number within)

/-- The guard of the outer frame is dropped first. -/
def outerDroppedFirst : List ScopeEvent :=
  [.enter (.ofModule "app.x" "app.x.Main.main"), .enter (.ofModule "app.y" "app.y.Plugin.run"),
    .drop 0]

/-- The stack then holds the frame that was left and not the one that goes on, and what the one
asks for is granted to the other. -/
theorem left_frame_is_asked_about :
    (Scopes.empty.after outerDroppedFirst).stack = [.ofModule "app.x" "app.x.Main.main"] ∧
      (Alive.initial.after outerDroppedFirst).frames = [.ofModule "app.y" "app.y.Plugin.run"] ∧
      ((Engine.mk (Catalog.denyAll.grant .runtimeExit ⟨"app.x"⟩) .shadow).guardPermission
        "Runtime.exit" (Scopes.empty.after outerDroppedFirst).stack).1 = .ok () ∧
      ((Engine.mk (Catalog.denyAll.grant .runtimeExit ⟨"app.x"⟩) .shadow).guardPermission
        "Runtime.exit" (Alive.initial.after outerDroppedFirst).frames).1 =
          .error (.denied ⟨.runtimeExit, some ⟨"app.y"⟩⟩) ∧
      ¬∀ events, (Scopes.empty.after events).stack = (Alive.initial.after events).frames := by
  have left : (Scopes.empty.after outerDroppedFirst).stack =
      [.ofModule "app.x" "app.x.Main.main"] := rfl
  have alive : (Alive.initial.after outerDroppedFirst).frames =
      [.ofModule "app.y" "app.y.Plugin.run"] := rfl
  refine ⟨left, alive, rfl, rfl, fun always => ?_⟩
  have same := always outerDroppedFirst
  rw [left, alive] at same
  exact absurd same (by decide)

end AccessWeave
