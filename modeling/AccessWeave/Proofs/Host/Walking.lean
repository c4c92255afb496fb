import AccessWeave.Proofs.Host.Paths
import Mathlib.Tactic.SplitIfs

/-!
# Walking through a tree

Where the steps of a path lead is told by the links of a tree alone, whether anything else is there
or not. On the way there the path asks for places that have to be directories. Following the path
comes to the first of these places that is none, and gets to its end when all of them are. So two
trees with the same links follow a path alike when they agree on the places it asks for.
-/

namespace AccessWeave

namespace Tree

/-! ### What is at a location -/

theorem entry_at_put (tree : Tree) (location : Location) (entry : Entry) (other : Location)
    (inner : other ≠ []) :
    (tree.put location entry).entryAt? other
      = if other = location then some entry else tree.entryAt? other := by
  rw [entryAt?, entryAt?, if_neg inner, if_neg inner, put]
  by_cases same : other = location
  · rw [if_pos same, List.find?_cons_of_pos (by simp [same])]
    rfl
  · have kept : ∀ entries : List (Location × Entry),
        (entries.filter fun entry => entry.1 ≠ location).find? (fun entry => entry.1 = other)
          = entries.find? fun entry => entry.1 = other := by
      intro entries
      rw [List.find?_filter]
      congr 1
      funext entry
      by_cases found : entry.1 = other
      · simp [found, same]
      · simp [found]
    rw [if_neg same, List.find?_cons_of_neg (by simpa using Ne.symm same), kept]

theorem inner_of_no_directory {tree : Tree} {location : Location}
    (file : tree.entryAt? location ≠ some .directory) : location ≠ [] := by
  rintro rfl
  exact file rfl

@[simp] theorem put_current (tree : Tree) (location : Location) (entry : Entry) :
    (tree.put location entry).current = tree.current := rfl

theorem link_at_iff {tree : Tree} {location : Location} {target : Path} :
    tree.linkAt? location = some target ↔ tree.entryAt? location = some (.link target) := by
  rw [linkAt?]
  split
  · rename_i found entry
    simp [entry]
  · rename_i no_link
    exact iff_of_false (by simp) (no_link target)

theorem link_at_of_entry {tree later : Tree} {location : Location}
    (same : later.entryAt? location = tree.entryAt? location) :
    later.linkAt? location = tree.linkAt? location := by
  rw [linkAt?, linkAt?, same]

theorem no_link_at {tree : Tree} {location : Location}
    (no_link : ∀ target, tree.entryAt? location ≠ some (.link target)) :
    tree.linkAt? location = none := by
  rw [Option.eq_none_iff_forall_ne_some]
  exact fun target found => no_link target (link_at_iff.mp found)

theorem makeable_cases (tree : Tree) (location : Location) :
    tree.makeable location = .ok location ∨ ∃ fault, tree.makeable location = .error fault := by
  rw [makeable]
  split
  · exact .inr ⟨_, rfl⟩
  · exact .inl rfl

/-! ### Turns -/

theorem turn_still (tree : Tree) (refusing : Bool) (location : Location) {step : String}
    (still : ¬Path.isMove step = true) : tree.turn refusing location step = .place location := by
  rw [turn, if_pos (Path.still_of_no_move still)]

theorem turn_up (tree : Tree) (refusing : Bool) (location : Location) :
    tree.turn refusing location ".." = .place location.dropLast := by
  rw [turn, if_neg (by decide), if_pos rfl]

section

variable {step : String} (isMove : Path.isMove step = true) (down : step ≠ "..")

include isMove down

theorem turn_refused (tree : Tree) (location : Location) :
    tree.turn true location step = .refused .isADirectory := by
  have counted : ¬(step = "" ∨ step = ".") := by simpa [Path.isMove] using isMove
  rw [turn, if_neg counted, if_neg down, if_pos rfl]

theorem turn_too_long (tree : Tree) (location : Location)
    (long : nameLimit < step.utf8ByteSize) :
    tree.turn false location step = .refused .nameTooLong := by
  have counted : ¬(step = "" ∨ step = ".") := by simpa [Path.isMove] using isMove
  rw [turn, if_neg counted, if_neg down, if_neg Bool.false_ne_true, if_pos long]

theorem turn_down (tree : Tree) {location : Location}
    (short : step.utf8ByteSize ≤ nameLimit)
    (no_link : tree.linkAt? (location ++ [step]) = none) :
    tree.turn false location step = .place (location ++ [step]) := by
  have counted : ¬(step = "" ∨ step = ".") := by simpa [Path.isMove] using isMove
  rw [turn, if_neg counted, if_neg down, if_neg Bool.false_ne_true, if_neg (by omega), no_link]

end

/-- A step that leads to a place stays, goes up, or goes down to what is no link. -/
theorem turn_place {tree : Tree} {refusing : Bool} {location next : Location} {step : String}
    (led : tree.turn refusing location step = .place next) :
    next = location ∨ next = location.dropLast
      ∨ next = location ++ [step] ∧ tree.linkAt? next = none := by
  rw [turn] at led
  split_ifs at led
  · exact .inl (Turn.place.inj led).symm
  · exact .inr (.inl (Turn.place.inj led).symm)
  · split at led
    · cases led
    · rename_i no_link
      obtain rfl := Turn.place.inj led
      exact .inr (.inr ⟨rfl, no_link⟩)

theorem turn_link {tree : Tree} {refusing : Bool} {location start : Location} {step : String}
    {inner : List String} (led : tree.turn refusing location step = .link start inner) :
    start = [] ∨ start = location := by
  rw [turn] at led
  split_ifs at led
  split at led
  · rename_i target _
    rw [← (Turn.link.inj led).1, startOf]
    split
    · exact .inl rfl
    · exact .inr rfl
  · cases led

/-- Refusing a name changes nothing else. -/
theorem turn_refusing (tree : Tree) (location : Location) (step : String) :
    tree.turn true location step = tree.turn false location step
      ∨ tree.turn true location step = .refused .isADirectory := by
  by_cases isMove : Path.isMove step = true
  · by_cases up : step = ".."
    · rw [up, turn_up, turn_up]
      exact .inl rfl
    · exact .inr (turn_refused isMove up tree location)
  · rw [turn_still _ _ _ isMove, turn_still _ _ _ isMove]
    exact .inl rfl

theorem turn_congr {tree later : Tree} (same : later.linkAt? = tree.linkAt?) :
    later.turn = tree.turn := by
  funext refusing location step
  rw [turn, turn, same]

/-! ### Routes -/

/-- A place, and how many links may still be followed from there. -/
structure Footing where
  links : Nat
  place : Location

/-- The places that steps ask for, in their order, and where the steps lead. -/
structure Route where
  asked : List Location
  ends : Except SystemFault Footing

namespace Route

def behind (location : Location) (route : Route) : Route :=
  { route with asked := location :: route.asked }

/-- A route that goes on where another one leads. -/
def onto (route : Route) (next : Footing → Route) : Route :=
  match route.ends with
  | .error fault => ⟨route.asked, .error fault⟩
  | .ok footing => { next footing with asked := route.asked ++ (next footing).asked }

theorem onto_behind (location : Location) (route : Route) (next : Footing → Route) :
    (route.behind location).onto next = (route.onto next).behind location := by
  rcases route with ⟨asked, fault | footing⟩ <;> rfl

end Route

def routeWith (tree : Tree) (filling : Bool) (links : Nat)
    (onward : Location → List String → Route) (location : Location) : List String → Route
  | [] => ⟨[], .ok ⟨links, location⟩⟩
  | step :: steps =>
      Route.behind location
        (match tree.turn (filling && endsInSlash steps) location step with
        | .refused fault => ⟨[], .error fault⟩
        | .place next => routeWith tree filling links onward next steps
        | .link start inner => onward start (inner ++ steps))

/-- The route of steps from a location, over as many links as are left. -/
def route (tree : Tree) (filling : Bool) : Nat → Location → List String → Route
  | 0 => tree.routeWith filling 0 fun _ _ => ⟨[], .error .tooManyLinks⟩
  | links + 1 => tree.routeWith filling (links + 1) (route tree filling links)

/-- The route behind a link. -/
def linkRoute (tree : Tree) (filling : Bool) : Nat → Location → List String → Route
  | 0, _, _ => ⟨[], .error .tooManyLinks⟩
  | links + 1, start, steps => tree.route filling links start steps

def linkFollow (tree : Tree) (filling : Bool) :
    Nat → Location → List String → Except SystemFault Location
  | 0, _, _ => .error .tooManyLinks
  | links + 1, start, steps => tree.follow filling links start steps

/-- What holds of the steps behind a step, and of all steps with fewer links, holds of the step and
what is behind it. -/
theorem walk_induction {motive : Nat → List String → Prop}
    (ended : ∀ links, motive links [])
    (step : ∀ links step steps, motive links steps →
      (∀ fewer others, links = fewer + 1 → motive fewer others) → motive links (step :: steps))
    (links : Nat) (steps : List String) : motive links steps := by
  induction links generalizing steps with
  | zero =>
      induction steps with
      | nil => exact ended 0
      | cons first steps induction =>
          exact step 0 first steps induction fun fewer others none => absurd none (by omega)
  | succ links outer =>
      induction steps with
      | nil => exact ended (links + 1)
      | cons first steps induction =>
          apply step (links + 1) first steps induction
          intro fewer others same
          obtain rfl : links = fewer := by omega
          exact outer others

section

variable (tree : Tree) (filling : Bool) (links : Nat) (location : Location)

@[simp] theorem route_nil :
    tree.route filling links location [] = ⟨[], .ok ⟨links, location⟩⟩ := by
  cases links <;> rfl

@[simp] theorem follow_nil : tree.follow filling links location [] = .ok location := by
  cases links <;> rfl

theorem route_cons (step : String) (steps : List String) :
    tree.route filling links location (step :: steps)
      = Route.behind location
        (match tree.turn (filling && endsInSlash steps) location step with
        | .refused fault => ⟨[], .error fault⟩
        | .place next => tree.route filling links next steps
        | .link start inner => tree.linkRoute filling links start (inner ++ steps)) := by
  cases links <;> rfl

theorem follow_cons (step : String) (steps : List String) :
    tree.follow filling links location (step :: steps)
      = match tree.entryAt? location with
        | none => .error .notFound
        | some .directory =>
            match tree.turn (filling && endsInSlash steps) location step with
            | .refused fault => .error fault
            | .place next => tree.follow filling links next steps
            | .link start inner => tree.linkFollow filling links start (inner ++ steps)
        | some _ => .error .notADirectory := by
  cases links <;> rfl

end

/-- The first place that is no directory, by the fault it gives. -/
def obstacle? (tree : Tree) : List Location → Option SystemFault
  | [] => none
  | place :: places =>
      match tree.entryAt? place with
      | none => some .notFound
      | some .directory => obstacle? tree places
      | some _ => some .notADirectory

/-- What a route comes to in a tree. -/
def Route.result (route : Route) (tree : Tree) : Except SystemFault Location :=
  match tree.obstacle? route.asked with
  | some fault => .error fault
  | none => route.ends.map Footing.place

/-- Following steps comes to what their route comes to. -/
theorem follow_eq (tree : Tree) (filling : Bool) (links : Nat) (location : Location)
    (steps : List String) :
    tree.follow filling links location steps
      = (tree.route filling links location steps).result tree := by
  revert location
  induction links, steps using walk_induction with
  | ended links =>
      intro location
      rw [follow_nil, route_nil]
      rfl
  | step links step steps onward inside =>
      intro location
      rw [follow_cons, route_cons, Route.result, Route.behind, obstacle?]
      cases tree.entryAt? location with
      | none => rfl
      | some entry =>
          cases entry with
          | directory =>
              cases tree.turn (filling && endsInSlash steps) location step with
              | refused fault => rfl
              | place next => exact onward next
              | link start inner =>
                  cases links with
                  | zero => rfl
                  | succ fewer => exact inside fewer _ rfl start
          | file | program | device | output | link => rfl

/-! ### Places that are asked for -/

theorem obstacle_none_iff {tree : Tree} {places : List Location} :
    tree.obstacle? places = none ↔ ∀ place ∈ places, tree.entryAt? place = some .directory := by
  induction places with
  | nil => simp [obstacle?]
  | cons place places induction =>
      rw [obstacle?, List.forall_mem_cons]
      cases entry : tree.entryAt? place with
      | none => simp
      | some found => cases found <;> simp [induction]

/-- An obstacle is the same in two trees with directories and nothing at the same places. -/
theorem obstacle_congr {tree later : Tree} {places : List Location}
    (directory : ∀ place ∈ places,
      later.entryAt? place = some .directory ↔ tree.entryAt? place = some .directory)
    (free : ∀ place ∈ places, later.entryAt? place = none ↔ tree.entryAt? place = none) :
    later.obstacle? places = tree.obstacle? places := by
  induction places with
  | nil => rfl
  | cons place places induction =>
      rw [List.forall_mem_cons] at directory free
      have others := induction directory.2 free.2
      rw [obstacle?, obstacle?, others]
      cases entry : tree.entryAt? place with
      | none => rw [free.1.mpr entry]
      | some found =>
          by_cases isDirectory : found = .directory
          · rw [isDirectory] at entry ⊢
            rw [directory.1.mpr entry]
          · have no_directory : later.entryAt? place ≠ some .directory := by
              intro there
              rw [directory.1.mp there] at entry
              exact isDirectory (Option.some.inj entry).symm
            have some_entry : later.entryAt? place ≠ none := by
              intro none
              rw [free.1.mp none] at entry
              cases entry
            obtain ⟨other, there⟩ := Option.ne_none_iff_exists'.mp some_entry
            rw [there] at no_directory ⊢
            cases found <;> cases other <;> simp at isDirectory no_directory <;> rfl

namespace Route

theorem result_ok_iff {route : Route} {tree : Tree} {place : Location} :
    route.result tree = .ok place ↔
      (∀ place ∈ route.asked, tree.entryAt? place = some .directory)
        ∧ ∃ footing, route.ends = .ok footing ∧ footing.place = place := by
  rw [result, ← obstacle_none_iff]
  rcases tree.obstacle? route.asked with _ | fault
  · rcases route.ends with fault | footing <;> simp [Except.map]
  · simp

/-- One route leads where another one does, and asks for nothing else. -/
structure Within (left right : Route) : Prop where
  ends : left.ends = right.ends
  asked : ∀ place ∈ left.asked, place ∈ right.asked

namespace Within

variable {left right : Route}

theorem refl (route : Route) : Within route route := ⟨rfl, fun _ member => member⟩

theorem onto (route : Route) {next other : Footing → Route}
    (within : ∀ footing, Within (next footing) (other footing)) :
    Within (route.onto next) (route.onto other) := by
  rcases route with ⟨asked, fault | footing⟩
  · exact .refl _
  · refine ⟨(within footing).ends, ?_⟩
    intro place member
    rcases List.mem_append.mp member with first | later
    · exact List.mem_append_left _ first
    · exact List.mem_append_right _ ((within footing).asked place later)

end Within

end Route

/-- The route of steps in two parts. A file is filled only at the end of the second one. -/
theorem route_append (tree : Tree) {filling : Bool} (links : Nat) (location : Location)
    (front : List String) {back : List String}
    (whole : ∀ rest, (filling && endsInSlash (rest ++ back)) = false) :
    tree.route filling links location (front ++ back)
      = (tree.route false links location front).onto fun footing =>
          tree.route filling footing.links footing.place back := by
  revert location
  induction links, front using walk_induction with
  | ended links =>
      intro location
      rw [route_nil]
      rfl
  | step links step steps onward inside =>
      intro location
      rw [List.cons_append, route_cons, route_cons, whole, Bool.false_and, Route.onto_behind]
      congr 1
      cases tree.turn false location step with
      | refused fault => rfl
      | place next => exact onward next
      | link start inner =>
          cases links with
          | zero => rfl
          | succ fewer =>
              dsimp only
              rw [← List.append_assoc]
              exact inside fewer _ rfl start

theorem finding_append (tree : Tree) (links : Nat) (location : Location)
    (front back : List String) :
    tree.route false links location (front ++ back)
      = (tree.route false links location front).onto fun footing =>
          tree.route false footing.links footing.place back :=
  tree.route_append links location front fun _ => rfl

/-- The route of a file that is filled is the one to what is found there, unless it is refused for a
slash at its end. -/
theorem filling_route (tree : Tree) (links : Nat) (location : Location) (steps : List String) :
    tree.route true links location steps = tree.route false links location steps
      ∨ (tree.route true links location steps).ends = .error .isADirectory
        ∧ ∀ place ∈ (tree.route true links location steps).asked,
          place ∈ (tree.route false links location steps).asked := by
  have behind : ∀ {left right : Route} (location : Location),
      (left = right ∨ left.ends = .error .isADirectory
          ∧ ∀ place ∈ left.asked, place ∈ right.asked) →
        left.behind location = right.behind location
          ∨ (left.behind location).ends = .error .isADirectory
            ∧ ∀ place ∈ (left.behind location).asked, place ∈ (right.behind location).asked := by
    rintro left right location (rfl | ⟨ends, asked⟩)
    · exact .inl rfl
    · refine .inr ⟨ends, ?_⟩
      intro place member
      rcases List.mem_cons.mp member with rfl | later
      · exact List.mem_cons_self
      · exact List.mem_cons_of_mem _ (asked place later)
  revert location
  induction links, steps using walk_induction with
  | ended links =>
      intro location
      rw [route_nil, route_nil]
      exact .inl rfl
  | step links step steps onward inside =>
      intro location
      rw [route_cons, route_cons, Bool.true_and, Bool.false_and]
      apply behind
      have turned : tree.turn (endsInSlash steps) location step = tree.turn false location step
          ∨ tree.turn (endsInSlash steps) location step = .refused .isADirectory := by
        cases endsInSlash steps with
        | false => exact .inl rfl
        | true => exact tree.turn_refusing location step
      rcases turned with same | refused
      · rw [same]
        cases tree.turn false location step with
        | refused fault => exact .inl rfl
        | place next => exact onward next
        | link start inner =>
            cases links with
            | zero => exact .inl rfl
            | succ fewer => exact inside fewer _ rfl start
      · rw [refused]
        exact .inr ⟨rfl, by simp⟩

theorem route_congr {tree later : Tree} (same : later.linkAt? = tree.linkAt?) :
    later.route = tree.route := by
  funext filling links location steps
  revert location
  induction links, steps using walk_induction with
  | ended links =>
      intro location
      rw [route_nil, route_nil]
  | step links step steps onward inside =>
      intro location
      rw [route_cons, route_cons, turn_congr same]
      congr 1
      cases tree.turn (filling && endsInSlash steps) location step with
      | refused fault => rfl
      | place next => exact onward next
      | link start inner =>
          cases links with
          | zero => rfl
          | succ fewer => exact inside fewer _ rfl start

/-! ### Steps and moves -/

/-- The route of a step, and of what is behind it. -/
theorem route_step (tree : Tree) (links : Nat) (location : Location) (step : String)
    (steps : List String) :
    tree.route false links location (step :: steps)
      = (tree.route false links location [step]).onto fun footing =>
          tree.route false footing.links footing.place steps :=
  tree.finding_append links location [step] steps

theorem route_still (tree : Tree) (links : Nat) (location : Location) {step : String}
    (still : ¬Path.isMove step = true) (steps : List String) :
    tree.route false links location (step :: steps)
      = (tree.route false links location steps).behind location := by
  rw [route_cons, turn_still _ _ _ still]

/-- The moves among some steps lead where the steps do. -/
theorem moves_within (tree : Tree) (links : Nat) (location : Location) (steps : List String) :
    Route.Within (tree.route false links location (steps.filter Path.isMove))
      (tree.route false links location steps) := by
  induction steps generalizing links location with
  | nil => exact .refl _
  | cons step steps induction =>
      by_cases move : Path.isMove step = true
      · rw [List.filter_cons_of_pos move, route_step, tree.route_step links location step steps]
        exact .onto _ fun footing => induction footing.links footing.place
      · rw [List.filter_cons_of_neg move, tree.route_still links location move]
        have within := induction links location
        exact ⟨within.ends, fun place member =>
          List.mem_cons_of_mem _ (within.asked place member)⟩

/-! ### Places inside directories -/

/-- Around a location there are directories, and at it there is no link. -/
structure Rooted (tree : Tree) (location : Location) : Prop where
  around : ∀ outer, outer <+: location → outer ≠ location → tree.entryAt? outer = some .directory
  no_link : tree.linkAt? location = none

theorem no_link_of_directory {tree : Tree} {location : Location}
    (directory : tree.entryAt? location = some .directory) : tree.linkAt? location = none :=
  no_link_at fun target => by rw [directory]; simp

theorem rooted_at_root (tree : Tree) : tree.Rooted [] where
  around _ prefixed inner := absurd (List.prefix_nil.mp prefixed) inner
  no_link := no_link_of_directory rfl

namespace Rooted

variable {tree : Tree} {location next : Location}

theorem up (rooted : tree.Rooted location) : tree.Rooted location.dropLast := by
  by_cases root : location = []
  · rw [root]
    exact tree.rooted_at_root
  · have shorter : ∀ outer, outer <+: location.dropLast → outer ≠ location := by
      rintro outer prefixed rfl
      have length := prefixed.length_le
      rw [List.length_dropLast] at length
      have := List.length_pos_iff.mpr root
      omega
    refine ⟨?_, ?_⟩
    · intro outer prefixed _
      exact rooted.around outer (prefixed.trans (List.dropLast_prefix _)) (shorter outer prefixed)
    · exact no_link_of_directory
        (rooted.around _ (List.dropLast_prefix _) (shorter _ List.prefix_rfl))

theorem down (rooted : tree.Rooted location) (standing : tree.entryAt? location = some .directory)
    {name : String} (no_link : tree.linkAt? (location ++ [name]) = none) :
    tree.Rooted (location ++ [name]) where
  around outer prefixed inner := by
    rcases List.prefix_concat_iff.mp prefixed with same | before
    · exact absurd same inner
    · by_cases here : outer = location
      · rw [here, standing]
      · exact rooted.around outer before here
  no_link := no_link

/-- What steps lead to over directories is rooted when it starts so. -/
theorem ends {filling : Bool} {links : Nat} {steps : List String} {footing : Footing}
    (rooted : tree.Rooted location)
    (directories : ∀ place ∈ (tree.route filling links location steps).asked,
      tree.entryAt? place = some .directory)
    (led : (tree.route filling links location steps).ends = .ok footing) :
    tree.Rooted footing.place := by
  revert location
  induction links, steps using walk_induction with
  | ended links =>
      intro location rooted _ led
      rw [route_nil] at led
      rw [← Except.ok.inj led]
      exact rooted
  | step links step steps onward inside =>
      intro location rooted directories led
      rw [route_cons] at directories led
      have standing := directories location List.mem_cons_self
      replace directories := fun place member =>
        directories place (List.mem_cons_of_mem location member)
      cases turned : tree.turn (filling && endsInSlash steps) location step with
      | refused fault => simp [turned, Route.behind] at led
      | place next =>
          rw [turned] at led directories
          refine onward ?_ directories led
          obtain rfl | rfl | ⟨rfl, no_link⟩ := turn_place turned
          · exact rooted
          · exact rooted.up
          · exact rooted.down standing no_link
      | link start inner =>
          rw [turned] at led directories
          cases links with
          | zero => simp [linkRoute, Route.behind] at led
          | succ fewer =>
              refine inside fewer _ rfl ?_ directories led
              obtain rfl | rfl := turn_link turned
              · exact tree.rooted_at_root
              · exact rooted

end Rooted

end Tree

end AccessWeave
