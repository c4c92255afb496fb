import AccessWeave.Proofs.Host.Walking

/-!
# What a path leads to

A path that can be followed leads where its moves lead, over places that are directories. It leads
to a directory when the place at its end is one as well, which a point at the end asks for.
-/

namespace AccessWeave

namespace Tree

variable {tree : Tree} {start : Location} {front back moves : List String}

/-! ### Ways that end at a directory -/

/-- The places that moves ask for when they are to lead to a directory. -/
def standing (tree : Tree) (start : Location) (moves : List String) : List Location :=
  (tree.route false linkLimit start (moves ++ ["."])).asked

/-- Where moves lead, if no name is too long and there are not too many links. -/
def ending? (tree : Tree) (start : Location) (moves : List String) : Option Location :=
  (tree.route false linkLimit start moves).ends.toOption.map Footing.place

/-- The moves lead over directories to a directory. -/
structure Arrives (tree : Tree) (start : Location) (moves : List String) (place : Location) :
    Prop where
  directories : ∀ place ∈ tree.standing start moves, tree.entryAt? place = some .directory
  ends : tree.ending? start moves = some place

theorem ending_iff {place : Location} :
    tree.ending? start moves = some place ↔
      ∃ footing, (tree.route false linkLimit start moves).ends = .ok footing
        ∧ footing.place = place := by
  rw [ending?, Option.map_eq_some_iff]
  rcases (tree.route false linkLimit start moves).ends with fault | footing <;>
    simp [Except.toOption]

theorem point_route (tree : Tree) (links : Nat) (location : Location) (steps : List String) :
    tree.route false links location (steps ++ ["."])
      = (tree.route false links location steps).onto fun footing =>
          ⟨[footing.place], .ok footing⟩ := by
  rw [finding_append]
  congr 1
  funext footing
  rw [tree.route_still _ _ (by decide), route_nil]
  rfl

theorem ending_point (tree : Tree) (start : Location) (moves : List String) :
    (tree.route false linkLimit start (moves ++ ["."])).ends
      = (tree.route false linkLimit start moves).ends := by
  rw [point_route, Route.onto]
  split
  · rename_i fault ends
    exact ends.symm
  · rename_i footing ends
    exact ends.symm

theorem follow_point_iff {place : Location} :
    tree.follow false linkLimit start (moves ++ ["."]) = .ok place
      ↔ tree.Arrives start moves place := by
  rw [follow_eq, Route.result_ok_iff, ending_point, ← ending_iff]
  exact ⟨fun ⟨directories, ends⟩ => ⟨directories, ends⟩,
    fun arrives => ⟨arrives.directories, arrives.ends⟩⟩

theorem mem_standing_of_asked {place : Location}
    (asked : place ∈ (tree.route false linkLimit start moves).asked) :
    place ∈ tree.standing start moves := by
  rw [standing, point_route, Route.onto]
  split
  · exact asked
  · exact List.mem_append_left _ asked

theorem standing_append (ends : tree.ending? start front = none) :
    tree.standing start (front ++ back) = (tree.route false linkLimit start front).asked
      ∧ tree.ending? start (front ++ back) = none := by
  rw [standing, ending?, List.append_assoc, finding_append, finding_append]
  rw [ending?] at ends
  rcases route : tree.route false linkLimit start front with ⟨asked, fault | footing⟩
  · exact ⟨rfl, rfl⟩
  · simp [route, Except.toOption] at ends

namespace Arrives

variable {place : Location}

theorem directory (arrives : tree.Arrives start moves place) :
    tree.entryAt? place = some .directory := by
  obtain ⟨footing, ends, rfl⟩ := ending_iff.mp arrives.ends
  apply arrives.directories
  rw [standing, point_route, Route.onto, ends]
  exact List.mem_append_right _ (List.mem_singleton.mpr rfl)

theorem asked (arrives : tree.Arrives start moves place) :
    ∀ place ∈ (tree.route false linkLimit start moves).asked,
      tree.entryAt? place = some .directory :=
  fun place asked => arrives.directories place (mem_standing_of_asked asked)

theorem of_asked
    (directories : ∀ place ∈ (tree.route false linkLimit start moves).asked,
      tree.entryAt? place = some .directory)
    (ends : tree.ending? start moves = some place)
    (directory : tree.entryAt? place = some .directory) : tree.Arrives start moves place := by
  refine ⟨?_, ends⟩
  obtain ⟨footing, isEnd, rfl⟩ := ending_iff.mp ends
  intro other member
  rw [standing, point_route, Route.onto, isEnd] at member
  rcases List.mem_append.mp member with asked | here
  · exact directories other asked
  · rw [List.mem_singleton.mp here, directory]

theorem none (standing : tree.entryAt? start = some .directory) : tree.Arrives start [] start :=
  of_asked (by simp) (by simp [ending?, Except.toOption]) standing

/-- What leads to a directory leads to directories all the way. -/
theorem outer (arrives : tree.Arrives start (front ++ back) place) :
    ∃ stop, tree.Arrives start front stop := by
  cases ending : tree.ending? start front with
  | none =>
      have ends := arrives.ends
      rw [(standing_append ending).2] at ends
      cases ends
  | some stop =>
      refine ⟨stop, ?_⟩
      obtain ⟨footing, ends, rfl⟩ := ending_iff.mp ending
      have directories := arrives.directories
      rw [standing, List.append_assoc, finding_append, Route.onto, ends] at directories
      refine of_asked (fun place asked => directories place (List.mem_append_left _ asked))
        ending ?_
      apply directories
      apply List.mem_append_right
      cases back with
      | nil =>
          rw [List.nil_append, route_cons]
          exact List.mem_cons_self
      | cons move back =>
          rw [List.cons_append, route_cons]
          exact List.mem_cons_self

theorem rooted (arrives : tree.Arrives start moves place) (base : tree.Rooted start) :
    tree.Rooted place := by
  obtain ⟨footing, ends, rfl⟩ := ending_iff.mp arrives.ends
  exact base.ends arrives.asked ends

end Arrives

/-- What a move comes to that is taken where other moves lead. -/
theorem route_concat {place : Location} (ends : tree.ending? start front = some place)
    (last : String) :
    ∃ links, tree.route false linkLimit start (front ++ [last])
      = ⟨(tree.route false linkLimit start front).asked
          ++ (tree.route false links place [last]).asked,
        (tree.route false links place [last]).ends⟩ := by
  obtain ⟨footing, isEnd, rfl⟩ := ending_iff.mp ends
  refine ⟨footing.links, ?_⟩
  rw [finding_append, Route.onto, isEnd]

/-- From a directory inside directories a step up leads to a directory. -/
theorem Arrives.up {place : Location} (arrives : tree.Arrives start front place)
    (base : tree.Rooted start) : tree.Arrives start (front ++ [".."]) place.dropLast := by
  obtain ⟨links, route⟩ := route_concat arrives.ends ".."
  have last : tree.route false links place [".."] = ⟨[place], .ok ⟨links, place.dropLast⟩⟩ := by
    rw [route_cons, turn_up]
    simp [Route.behind]
  rw [last] at route
  have ends : tree.ending? start (front ++ [".."]) = some place.dropLast := by
    rw [ending?, route]
    rfl
  refine .of_asked ?_ ends ?_
  · intro other member
    rw [route] at member
    rcases List.mem_append.mp member with asked | here
    · exact arrives.asked other asked
    · rw [List.mem_singleton.mp here, arrives.directory]
  · by_cases root : place = []
    · rw [root]
      rfl
    · apply (arrives.rooted base).around _ (List.dropLast_prefix _)
      intro same
      have length := congrArg List.length same
      rw [List.length_dropLast] at length
      have := List.length_pos_iff.mpr root
      omega

section

variable {place : Location} {last : String}
  (ends : tree.ending? start front = some place) (isMove : Path.isMove last = true)
  (down : last ≠ "..")

include ends isMove down

theorem route_too_long (long : nameLimit < last.utf8ByteSize) :
    tree.route false linkLimit start (front ++ [last])
      = ⟨(tree.route false linkLimit start front).asked ++ [place], .error .nameTooLong⟩ := by
  obtain ⟨links, route⟩ := route_concat ends last
  rw [route, route_cons, Bool.false_and, turn_too_long isMove down _ _ long]
  rfl

theorem route_down (short : last.utf8ByteSize ≤ nameLimit)
    (no_link : tree.linkAt? (place ++ [last]) = none) :
    (tree.route false linkLimit start (front ++ [last])).asked
        = (tree.route false linkLimit start front).asked ++ [place]
      ∧ tree.ending? start (front ++ [last]) = some (place ++ [last]) := by
  obtain ⟨links, route⟩ := route_concat ends last
  have here : tree.route false links place [last] = ⟨[place], .ok ⟨links, place ++ [last]⟩⟩ := by
    rw [route_cons, Bool.false_and, turn_down isMove down _ short no_link]
    simp [Route.behind]
  rw [ending?, route, here]
  exact ⟨rfl, rfl⟩

end

/-! ### Following without moving -/

theorem follow_still {location : Location} (links : Nat) {step : String}
    (standing : tree.entryAt? location = some .directory) (still : ¬Path.isMove step = true)
    (steps : List String) :
    tree.follow false links location (step :: steps)
      = tree.follow false links location steps := by
  rw [follow_cons, standing, turn_still _ _ _ still]

/-- With a point at the end, steps ask for no other places than their moves do. -/
theorem point_within (tree : Tree) (links : Nat) (location : Location) (steps : List String) :
    Route.Within (tree.route false links location (steps ++ ["."]))
      (tree.route false links location (steps.filter Path.isMove ++ ["."])) := by
  induction steps generalizing links location with
  | nil => exact .refl _
  | cons step steps induction =>
      by_cases move : Path.isMove step = true
      · rw [List.filter_cons_of_pos move, List.cons_append, List.cons_append, route_step,
          tree.route_step links location step (steps.filter Path.isMove ++ ["."])]
        exact .onto _ fun footing => induction footing.links footing.place
      · rw [List.filter_cons_of_neg move, List.cons_append, tree.route_still links location move]
        refine ⟨(induction links location).ends, ?_⟩
        intro place member
        rcases List.mem_cons.mp member with rfl | behind
        · obtain ⟨next, others, steps⟩ := List.exists_cons_of_ne_nil
            (List.append_ne_nil_of_right_ne_nil (steps.filter Path.isMove)
              (List.cons_ne_nil "." []))
          rw [steps, route_cons]
          exact List.mem_cons_self
        · exact (induction links location).asked place behind

/-! ### Paths -/

def routeOf (tree : Tree) (path : Path) : Route :=
  tree.route false linkLimit (tree.origin path) path.moves

/-- Where a path leads, whether anything is there or not. A path leads nowhere when a name on its
way is too long, or when it goes over too many links. -/
def destination? (tree : Tree) (path : Path) : Option Location :=
  tree.ending? (tree.origin path) path.moves

/-- All places that a path asks for are among those that its moves ask for. -/
theorem steps_asked {filling : Bool} {path : Path} {place : Location}
    (asked : place ∈ (tree.route filling linkLimit (tree.origin path) path.steps).asked) :
    place ∈ tree.standing (tree.origin path) path.moves := by
  apply (tree.point_within linkLimit (tree.origin path) path.steps).asked
  apply mem_standing_of_asked
  cases filling with
  | false => exact asked
  | true =>
      rcases tree.filling_route linkLimit (tree.origin path) path.steps with same | ⟨-, within⟩
      · rwa [same] at asked
      · exact within place asked

theorem located {filling : Bool} {path : Path} {place : Location}
    (found : tree.locateSteps filling path path.steps = .ok place) :
    tree.destination? path = some place
      ∧ ∀ place ∈ (tree.routeOf path).asked, tree.entryAt? place = some .directory := by
  rw [locateSteps] at found
  split_ifs at found
  rw [follow_eq, Route.result_ok_iff] at found
  obtain ⟨directories, ends⟩ := found
  have plain : tree.route filling linkLimit (tree.origin path) path.steps
      = tree.route false linkLimit (tree.origin path) path.steps := by
    cases filling with
    | false => rfl
    | true =>
        rcases tree.filling_route linkLimit (tree.origin path) path.steps with same | ⟨refused, -⟩
        · exact same
        · obtain ⟨footing, led, -⟩ := ends
          rw [refused] at led
          cases led
  have within := tree.moves_within linkLimit (tree.origin path) path.steps
  rw [plain, ← within.ends] at ends
  rw [plain] at directories
  exact ⟨ending_iff.mpr ends, fun place asked => directories place (within.asked place asked)⟩

theorem located_rooted {filling : Bool} {path : Path} {place : Location}
    (base : tree.Rooted (tree.origin path))
    (found : tree.locateSteps filling path path.steps = .ok place) : tree.Rooted place := by
  obtain ⟨led, directories⟩ := located found
  obtain ⟨footing, ends, rfl⟩ := ending_iff.mp led
  exact base.ends directories ends

theorem lookup_ok_iff {path : Path} {entry : Entry} :
    tree.lookup path = .ok entry ↔
      ∃ place, tree.locate path = .ok place ∧ tree.entryAt? place = some entry := by
  rw [lookup]
  cases tree.locate path with
  | error fault => simp
  | ok place => cases found : tree.entryAt? place <;> simp [found]

theorem is_directory_iff {path : Path} :
    tree.isDirectory path = true ↔ tree.lookup path = .ok .directory := by
  rw [isDirectory]
  split <;> simp_all

theorem is_file_iff {path : Path} :
    tree.isFile path = true ↔ (∃ bytes, tree.lookup path = .ok (.file bytes))
      ∨ ∃ name, tree.lookup path = .ok (.program name) := by
  rw [isFile]
  split <;> simp_all

/-- A path of some length leads to a directory when its moves do. -/
theorem is_directory_iff_arrives {path : Path} (some_text : path.text ≠ "")
    (fits : path.text.utf8ByteSize ≤ pathLimit) :
    tree.isDirectory path = true
      ↔ ∃ place, tree.Arrives (tree.origin path) path.moves place := by
  have within := tree.moves_within linkLimit (tree.origin path) path.steps
  rw [is_directory_iff, lookup_ok_iff, locate, locateSteps, if_neg some_text, if_neg (by omega)]
  constructor
  · rintro ⟨place, found, directory⟩
    rw [follow_eq, Route.result_ok_iff, ← within.ends] at found
    exact ⟨place, .of_asked (fun place asked => found.1 place (within.asked place asked))
      (ending_iff.mpr found.2) directory⟩
  · rintro ⟨place, arrives⟩
    refine ⟨place, ?_, arrives.directory⟩
    rw [follow_eq, Route.result_ok_iff, ← within.ends]
    refine ⟨?_, ending_iff.mp arrives.ends⟩
    exact fun other asked => arrives.directories other (steps_asked asked)

theorem arrives_of_is_directory {path : Path} (directory : tree.isDirectory path = true) :
    ∃ place, tree.locate path = .ok place ∧ tree.Arrives (tree.origin path) path.moves place := by
  obtain ⟨place, found, entry⟩ := lookup_ok_iff.mp (is_directory_iff.mp directory)
  obtain ⟨led, directories⟩ := located found
  exact ⟨place, found, .of_asked directories led entry⟩

/-- Work goes on in a directory inside directories. -/
structure Grounded (tree : Tree) : Prop where
  standing : tree.entryAt? tree.current = some .directory
  rooted : tree.Rooted tree.current

namespace Grounded

variable (grounded : tree.Grounded) (path : Path)

include grounded

theorem origin_standing : tree.entryAt? (tree.origin path) = some .directory := by
  rw [origin, startOf]
  split
  · rfl
  · exact grounded.standing

theorem origin_rooted : tree.Rooted (tree.origin path) := by
  rw [origin, startOf]
  split
  · exact tree.rooted_at_root
  · exact grounded.rooted

end Grounded

/-! ### Paths that end with a move -/

section

variable {path : Path} {last : String}
  (isLast : path.steps.getLast? = some last) (isMove : Path.isMove last = true)

include isLast isMove

theorem trimmed_steps_of_move : trimmedSteps path = path.steps := by
  have counted : last ≠ "" := by
    simp [Path.isMove] at isMove
    exact isMove.1
  obtain ⟨front, steps⟩ := List.getLast?_eq_some_iff.mp isLast
  rw [trimmedSteps, steps, List.reverse_append, List.reverse_singleton, List.singleton_append,
    List.dropWhile_cons_of_neg (by simpa using counted), List.reverse_cons, List.reverse_reverse]

theorem moves_of_move : path.moves ≠ [] :=
  List.ne_nil_of_mem (List.mem_filter.mpr ⟨List.mem_of_getLast? isLast, isMove⟩)

theorem text_of_move : path.text ≠ "" := by
  intro empty
  apply moves_of_move isLast isMove
  rw [show path = ⟨path.text⟩ from rfl, empty]
  decide

end

end Tree

end AccessWeave
