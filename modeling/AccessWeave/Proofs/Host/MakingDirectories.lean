import AccessWeave.Proofs.Host.Growth
import Mathlib.Data.List.Induction
import Mathlib.Data.List.Infix

/-!
# Making directories

The directories of a path are made one after the other, from the outermost on, until something is in
the way. Each is a name in the directory that the moves before it lead to, so nothing changes but
that some of these places become directories. Two trees come to the same when what is different
between them are only directories that are made anyway, and when the links on the way lead to the
same.
-/

namespace AccessWeave

namespace Tree

/-- The place of the last of some moves, when it is a name in the directory that the moves before it
lead to. A link may be there. -/
def stop? (tree : Tree) (start : Location) (moves : List String) : Option Location :=
  match moves.getLast? with
  | none => none
  | some last =>
      if last = ".." then none
      else (tree.ending? start moves.dropLast).map fun around => around ++ [last]

/-- The places of all names on a way. -/
def stops (tree : Tree) (start : Location) (moves : List String) : List Location :=
  moves.inits.filterMap (tree.stop? start)

/-- The places that are asked for on a way because of the links among its stops. -/
def behindLinks (tree : Tree) (start : Location) (moves : List String) : List Location :=
  moves.inits.flatMap fun front =>
    if ((tree.stop? start front).bind tree.linkAt?).isSome then tree.standing start front else []

/-- Makes one directory, or finds that it is there. -/
def makeOrFind (tree : Tree) (path : Path) : Option SystemFault × Tree :=
  match tree.makeDirectory path with
  | .ok made => (none, made)
  | .error fault => (if tree.isDirectory path then none else some fault, tree)

/-- Makes one more directory, if what was done before has not failed. -/
def makeNext (result : Option SystemFault × Tree) (path : Path) : Option SystemFault × Tree :=
  match result with
  | (some fault, made) => (some fault, made)
  | (none, made) => made.makeOrFind path

variable {tree later : Tree} {path : Path} {start around : Location}
  {front moves : List String} {last : String}

/-! ### Stops -/

theorem stop_concat (down : last ≠ "..") (ends : tree.ending? start front = some around) :
    tree.stop? start (front ++ [last]) = some (around ++ [last]) := by
  rw [stop?, List.getLast?_concat, List.dropLast_concat, ends]
  simp [down]

theorem mem_stops {place : Location} :
    place ∈ tree.stops start moves ↔
      ∃ front, front <+: moves ∧ tree.stop? start front = some place := by
  simp [stops, List.mem_filterMap]

theorem stops_front {place : Location} (member : place ∈ tree.stops start front)
    (prefixed : front <+: moves) : place ∈ tree.stops start moves := by
  obtain ⟨inner, shorter, stop⟩ := mem_stops.mp member
  exact mem_stops.mpr ⟨inner, shorter.trans prefixed, stop⟩

theorem mem_behind_links {place : Location} :
    place ∈ tree.behindLinks start moves ↔ ∃ front, front <+: moves
      ∧ ((tree.stop? start front).bind tree.linkAt?).isSome = true
      ∧ place ∈ tree.standing start front := by
  rw [behindLinks, List.mem_flatMap]
  simp only [List.mem_inits, List.mem_ite_nil_right]

theorem behind_links_front {place : Location} (member : place ∈ tree.behindLinks start front)
    (prefixed : front <+: moves) : place ∈ tree.behindLinks start moves := by
  obtain ⟨inner, shorter, link, asked⟩ := mem_behind_links.mp member
  exact mem_behind_links.mpr ⟨inner, shorter.trans prefixed, link, asked⟩

theorem Grown.stop (grown : Grown tree later) (start : Location) (moves : List String) :
    later.stop? start moves = tree.stop? start moves := by
  rw [stop?, stop?]
  simp only [grown.ending]

theorem Grown.stops (grown : Grown tree later) (start : Location) (moves : List String) :
    later.stops start moves = tree.stops start moves := by
  rw [Tree.stops, Tree.stops, funext fun front => grown.stop start front]

theorem Grown.behind_links (grown : Grown tree later) (start : Location) (moves : List String) :
    later.behindLinks start moves = tree.behindLinks start moves := by
  rw [Tree.behindLinks, Tree.behindLinks]
  simp only [grown.stop, grown.link_at, grown.standing]

/-! ### Following a way in two parts -/

/-- A way that cannot be gone fails whatever follows, and another one is gone on from its end. -/
theorem follow_append_cases (tree : Tree) (links : Nat) (location : Location)
    (front : List String) :
    (∃ fault, ∀ back, tree.follow false links location (front ++ back) = .error fault)
      ∨ ∃ footing, (tree.route false links location front).ends = .ok footing
        ∧ ∀ back, tree.follow false links location (front ++ back)
          = tree.follow false footing.links footing.place back := by
  have appended : ∀ before after : List Location, tree.obstacle? (before ++ after)
      = (tree.obstacle? before).or (tree.obstacle? after) := by
    intro before after
    induction before with
    | nil => rfl
    | cons place before induction =>
        rw [List.cons_append, obstacle?, obstacle?, induction]
        cases tree.entryAt? place with
        | none => rfl
        | some entry => cases entry <;> rfl
  simp only [follow_eq, finding_append, Route.result, Route.onto]
  rcases tree.route false links location front with ⟨asked, ends⟩
  dsimp only
  rcases obstacle : tree.obstacle? asked with _ | fault
  · rcases ends with fault | footing
    · exact .inl ⟨fault, fun back => by simp [obstacle, Except.map]⟩
    · exact .inr ⟨footing, rfl, fun back => by simp [appended, obstacle]⟩
  · rcases ends with other | footing
    · exact .inl ⟨fault, fun back => by simp [obstacle]⟩
    · exact .inl ⟨fault, fun back => by simp [appended, obstacle]⟩

/-- What does not lead to a directory fails with whatever move follows. -/
theorem follow_outer {fault : SystemFault}
    (failed : tree.follow false linkLimit start (front ++ ["."]) = .error fault)
    (last : String) :
    tree.follow false linkLimit start (front ++ [last] ++ ["."]) = .error fault := by
  rw [List.append_assoc]
  rcases tree.follow_append_cases linkLimit start front with
    ⟨found, fails⟩ | ⟨footing, -, onward⟩
  · rw [← failed, fails, fails]
  · rw [onward] at failed ⊢
    rw [follow_cons] at failed
    rw [List.singleton_append, follow_cons]
    cases entry : tree.entryAt? footing.place with
    | none =>
        rw [entry] at failed
        exact failed
    | some found =>
        rw [entry] at failed
        cases found with
        | directory =>
            rw [turn_still _ _ _ (by decide)] at failed
            simp at failed
        | file | program | device | output | link => exact failed

theorem follow_to_nothing (arrives : tree.Arrives start front around)
    (isMove : Path.isMove last = true) (down : last ≠ "..")
    (short : last.utf8ByteSize ≤ nameLimit) (free : tree.entryAt? (around ++ [last]) = none) :
    tree.follow false linkLimit start (front ++ [last] ++ ["."]) = .error .notFound := by
  have no_link : tree.linkAt? (around ++ [last]) = none := no_link_at fun target => by
    rw [free]
    simp
  obtain ⟨asked, ends⟩ := route_down arrives.ends isMove down short no_link
  obtain ⟨footing, isEnd, place⟩ := ending_iff.mp ends
  rcases tree.follow_append_cases linkLimit start (front ++ [last]) with
    ⟨fault, fails⟩ | ⟨other, isOther, onward⟩
  · have found := fails []
    rw [List.append_nil, follow_eq] at found
    have reached : (tree.route false linkLimit start (front ++ [last])).result tree
        = .ok (around ++ [last]) := by
      refine Route.result_ok_iff.mpr ⟨?_, footing, isEnd, place⟩
      rw [asked]
      intro other member
      rcases List.mem_append.mp member with before | here
      · exact arrives.asked other before
      · rw [List.mem_singleton.mp here, arrives.directory]
    rw [reached] at found
    cases found
  · rw [isEnd] at isOther
    obtain rfl := Except.ok.inj isOther
    rw [onward, place, follow_cons, free]

/-- The places that are asked for on the way to a name in a directory. -/
theorem standing_down (ends : tree.ending? start front = some around)
    (isMove : Path.isMove last = true) (down : last ≠ "..")
    (short : last.utf8ByteSize ≤ nameLimit)
    (no_link : tree.linkAt? (around ++ [last]) = none) :
    tree.standing start (front ++ [last])
      = (tree.route false linkLimit start front).asked ++ [around] ++ [around ++ [last]] := by
  obtain ⟨asked, isEnd⟩ := route_down ends isMove down short no_link
  obtain ⟨footing, led, place⟩ := ending_iff.mp isEnd
  rw [standing, point_route, Route.onto, led]
  dsimp only
  rw [asked, place]

/-! ### One directory -/

theorem make_with_missing (tree : Tree) (path : Path)
    (makeParent : Tree → Option SystemFault × Tree)
    (missing : tree.makeDirectory path = .error .notFound) :
    makeWith path makeParent tree = makeNext (makeParent tree) path := by
  rw [makeWith, missing]
  rcases makeParent tree with ⟨_ | fault, made⟩ <;> rfl

theorem make_with_found (tree : Tree) (path : Path)
    (makeParent : Tree → Option SystemFault × Tree)
    (found : tree.makeDirectory path ≠ .error .notFound) :
    makeWith path makeParent tree = tree.makeOrFind path := by
  rw [makeWith, makeOrFind]
  cases making : tree.makeDirectory path with
  | ok made => rfl
  | error fault =>
      cases fault with
      | notFound => exact absurd making found
      | _ => rfl

section

variable (written : Path.Written (front ++ [last]))

include written

theorem making_ends (path : Path) :
    (path.making (front ++ [last])).steps.getLast? = some last
      ∧ Path.isMove last = true := by
  refine ⟨?_, (written last (by simp)).1⟩
  rw [path.making_steps written (by simp), ← List.append_assoc, List.getLast?_concat]

variable (fits : (path.making (front ++ [last])).text.utf8ByteSize ≤ pathLimit)

include fits

theorem is_directory_making :
    tree.isDirectory (path.making (front ++ [last])) = true
      ↔ ∃ place, tree.Arrives (tree.origin path) (front ++ [last]) place := by
  obtain ⟨isLast, isMove⟩ := making_ends written path
  rw [is_directory_iff_arrives (text_of_move isLast isMove) fits, path.making_moves written,
    Tree.origin, startOf, path.making_is_absolute written, Tree.origin, startOf]

theorem make_directory_making
    (base : tree.entryAt? (tree.origin path) = some .directory) :
    tree.makeDirectory (path.making (front ++ [last]))
      = (tree.follow false linkLimit (tree.origin path) (front ++ ["."])).bind fun around =>
          tree.makeIn around last := by
  obtain ⟨isLast, isMove⟩ := making_ends written path
  have steps := path.making_steps written (by simp)
  have origin : tree.origin (path.making (front ++ [last])) = tree.origin path := by
    rw [Tree.origin, startOf, path.making_is_absolute written, Tree.origin, startOf]
  have located : tree.locateSteps false (path.making (front ++ [last]))
        ((path.making (front ++ [last])).steps.dropLast ++ ["."])
      = tree.follow false linkLimit (tree.origin path) (front ++ ["."]) := by
    rw [locateSteps, if_neg (text_of_move isLast isMove), if_neg (by omega), steps,
      ← List.append_assoc, List.dropLast_concat, origin]
    obtain none | root | current := path.start_cases
    · rw [none]
      rfl
    · rw [root]
      exact tree.follow_still _ base (by decide) _
    · rw [current]
      exact tree.follow_still _ base (by decide) _
  rw [makeDirectory, trimmed_steps_of_move isLast isMove, located, isLast]
  cases tree.follow false linkLimit (tree.origin path) (front ++ ["."]) <;> rfl

end

theorem make_in_of_name (around : Location) (isMove : Path.isMove last = true)
    (down : last ≠ "..") (short : last.utf8ByteSize ≤ nameLimit)
    (free : tree.entryAt? (around ++ [last]) = none)
    (allowed : tree.makeable (around ++ [last]) = .ok (around ++ [last])) :
    tree.makeIn around last = .ok (tree.put (around ++ [last]) .directory) := by
  have name : ¬(last = "." ∨ last = "..") := by
    simp [Path.isMove] at isMove
    simp [isMove.2, down]
  rw [makeIn, if_neg name, if_neg (by omega), free]
  simp [allowed]

/-- A directory is made only for a name where nothing is and something can be made. -/
theorem make_in_ok {made : Tree} (making : tree.makeIn around last = .ok made) :
    last ≠ ".." ∧ last.utf8ByteSize ≤ nameLimit ∧ tree.entryAt? (around ++ [last]) = none
      ∧ tree.makeable (around ++ [last]) = .ok (around ++ [last])
      ∧ made = tree.put (around ++ [last]) .directory := by
  rw [makeIn] at making
  split_ifs at making with point long
  cases entry : tree.entryAt? (around ++ [last]) with
  | some found => simp [entry] at making
  | none =>
      rw [entry] at making
      dsimp only at making
      obtain allowed | ⟨fault, refused⟩ := tree.makeable_cases (around ++ [last])
      · rw [allowed] at making
        exact ⟨fun up => point (.inr up), by omega, rfl, allowed, (Except.ok.inj making).symm⟩
      · simp [refused] at making

/-- Nothing is found to be missing in a directory, unless it is free. -/
theorem make_in_not_found (missing : tree.makeIn around last = .error .notFound) :
    last ≠ ".." ∧ last.utf8ByteSize ≤ nameLimit ∧ tree.entryAt? (around ++ [last]) = none := by
  rw [makeIn] at missing
  split_ifs at missing with point long
  · simp at missing
  · simp at missing
  · cases entry : tree.entryAt? (around ++ [last]) with
    | some found => simp [entry] at missing
    | none => exact ⟨fun up => point (.inr up), by omega, rfl⟩

theorem put_at_free {place : Location} (free : tree.entryAt? place = none)
    (allowed : tree.makeable place = .ok place) :
    Grown tree (tree.put place .directory)
      ∧ (tree.put place .directory).entryAt? place = some .directory
      ∧ ∀ other, other ≠ place →
        (tree.put place .directory).entryAt? other = tree.entryAt? other := by
  have file : tree.entryAt? place ≠ some .directory := by simp [free]
  have inner := inner_of_no_directory file
  have here : (tree.put place .directory).entryAt? place = some .directory := by
    rw [tree.entry_at_put place _ place inner, if_pos rfl]
  have elsewhere : ∀ other, other ≠ place →
      (tree.put place .directory).entryAt? other = tree.entryAt? other := by
    intro other different
    by_cases root : other = []
    · rw [root]
      rfl
    · rw [tree.entry_at_put place _ other root, if_neg different]
  refine ⟨⟨rfl, fun location => ?_⟩, here, elsewhere⟩
  by_cases same : location = place
  · rw [same]
    exact .inr (.inl ⟨free, allowed, here⟩)
  · exact .inl (elsewhere location same)

/-- A name in a directory where nothing is and a directory can be made. -/
structure Open (tree : Tree) (around : Location) (name : String) : Prop where
  down : name ≠ ".."
  short : name.utf8ByteSize ≤ nameLimit
  free : tree.entryAt? (around ++ [name]) = none
  allowed : tree.makeable (around ++ [name]) = .ok (around ++ [name])

section

variable (written : Path.Written (front ++ [last]))
  (fits : (path.making (front ++ [last])).text.utf8ByteSize ≤ pathLimit)
  (base : tree.entryAt? (tree.origin path) = some .directory)

include written fits base

/-- Where a name is open, a directory is made. -/
theorem make_or_find_open (arrives : tree.Arrives (tree.origin path) front around)
    (isOpen : tree.Open around last) :
    tree.makeOrFind (path.making (front ++ [last]))
      = (none, tree.put (around ++ [last]) .directory) := by
  rw [makeOrFind, make_directory_making written fits base, follow_point_iff.mpr arrives]
  simp only [Except.bind, make_in_of_name around (written last (by simp)).1 isOpen.down
    isOpen.short isOpen.free isOpen.allowed]

/-- Everywhere else nothing changes. -/
theorem make_or_find_cases :
    (tree.makeOrFind (path.making (front ++ [last]))).2 = tree
        ∧ ((tree.makeOrFind (path.making (front ++ [last]))).1 = none
          ↔ ∃ place, tree.Arrives (tree.origin path) (front ++ [last]) place)
      ∨ ∃ around, tree.Arrives (tree.origin path) front around ∧ tree.Open around last := by
  rw [makeOrFind]
  cases making : tree.makeDirectory (path.making (front ++ [last])) with
  | error fault =>
      refine .inl ⟨rfl, ?_⟩
      rw [← is_directory_making written fits]
      cases tree.isDirectory (path.making (front ++ [last])) <;> simp
  | ok made =>
      rw [make_directory_making written fits base] at making
      cases found : tree.follow false linkLimit (tree.origin path) (front ++ ["."]) with
      | error fault => simp [found, Except.bind] at making
      | ok around =>
          simp only [found, Except.bind] at making
          obtain ⟨down, short, free, allowed, -⟩ := make_in_ok making
          exact .inr ⟨around, follow_point_iff.mp found, down, short, free, allowed⟩

theorem make_or_find_closed (arrives : tree.Arrives (tree.origin path) front around)
    (closed : ¬tree.Open around last) :
    (tree.makeOrFind (path.making (front ++ [last]))).2 = tree
      ∧ ((tree.makeOrFind (path.making (front ++ [last]))).1 = none
        ↔ ∃ place, tree.Arrives (tree.origin path) (front ++ [last]) place) := by
  rcases make_or_find_cases written fits base with unchanged | ⟨other, found, isOpen⟩
  · exact unchanged
  · obtain rfl : other = around := Option.some.inj (found.ends.symm.trans arrives.ends)
    exact absurd isOpen closed

end

/-! ### All directories of a path -/

/-- The root, and the point where a relative path starts, are there. -/
theorem make_with_standing (tree : Tree) (makeParent : Tree → Option SystemFault × Tree)
    (base : tree.entryAt? (tree.origin path) = some .directory)
    (some_text : (path.making []).text ≠ "")
    (fits : (path.making []).text.utf8ByteSize ≤ pathLimit) :
    makeWith (path.making []) makeParent tree = (none, tree) := by
  have nothing : Path.Written [] := by simp [Path.Written]
  have here : tree.origin (path.making []) = tree.origin path := by
    rw [Tree.origin, startOf, path.making_is_absolute nothing, Tree.origin, startOf]
  have directory : tree.isDirectory (path.making []) = true := by
    rw [is_directory_iff_arrives some_text fits, path.making_moves nothing, here]
    exact ⟨_, .none base⟩
  have trimmed : (trimmedSteps (path.making [])).dropLast = []
      ∧ (trimmedSteps (path.making [])).getLast?.getD "." = "." := by
    obtain ⟨text, -⟩ | ⟨text, -⟩ | ⟨text, -⟩ := path.making_none <;> rw [text] <;> decide
  have exists_already : tree.makeDirectory (path.making []) = .error .alreadyExists := by
    rw [makeDirectory, locateSteps, if_neg some_text, if_neg (by omega), here, trimmed.1,
      trimmed.2, List.nil_append, tree.follow_still linkLimit base (by decide), follow_nil]
    rfl
  rw [make_with_found _ _ _ (by rw [exists_already]; simp), makeOrFind, exists_already, directory]
  rfl

theorem make_nested_start (tree : Tree)
    (base : tree.entryAt? (tree.origin path) = some .directory)
    (fits : (path.making []).text.utf8ByteSize ≤ pathLimit) :
    makeNested path.start.reverse tree = (none, tree) := by
  have alone : ∀ component, path.start = [component] → (path.making []).text ≠ "" →
      makeNested path.start.reverse tree = (none, tree) := by
    intro component start some_text
    have text : Path.ofComponents [component] = path.making [] := by
      rw [Path.making, start]
      rfl
    rw [start, List.reverse_singleton, makeNested, List.reverse_singleton, text]
    exact tree.make_with_standing _ base some_text fits
  obtain ⟨-, start⟩ | ⟨text, start⟩ | ⟨text, start⟩ := path.making_none
  · rw [start]
    rfl
  · exact alone .root start (by rw [text]; decide)
  · exact alone .current start (by rw [text]; decide)

/-- The directories of the first moves of a path. -/
def makeAlong (tree : Tree) (path : Path) (moves : List String) : Option SystemFault × Tree :=
  makeNested (path.start ++ moves.map Component.ofMove).reverse tree

theorem make_along_concat (tree : Tree) (path : Path) (front : List String) (last : String) :
    tree.makeAlong path (front ++ [last])
      = makeWith (path.making (front ++ [last])) (fun tree => tree.makeAlong path front) tree := by
  have parts : (path.start ++ (front ++ [last]).map Component.ofMove).reverse
      = Component.ofMove last :: (path.start ++ front.map Component.ofMove).reverse := by
    simp
  rw [makeAlong, parts, makeNested, ← parts, List.reverse_reverse]
  rfl

/-- When a directory is not missing for want of what is around it, the directories around it are
found and not made. -/
theorem make_along_found (tree : Tree) (written : Path.Written front)
    (fits : (path.making front).text.utf8ByteSize ≤ pathLimit)
    (base : tree.entryAt? (tree.origin path) = some .directory)
    (found : tree.follow false linkLimit (tree.origin path) (front ++ ["."]) ≠ .error .notFound) :
    (tree.makeAlong path front).2 = tree
      ∧ ((tree.makeAlong path front).1 = none
        ↔ ∃ place, tree.Arrives (tree.origin path) front place) := by
  cases front using List.reverseRecOn with
  | nil =>
      rw [makeAlong, List.map_nil, List.append_nil, tree.make_nested_start base fits]
      exact ⟨rfl, iff_of_true rfl ⟨_, .none base⟩⟩
  | append_singleton front last =>
      have isMove := (written last (by simp)).1
      have there : tree.makeDirectory (path.making (front ++ [last])) ≠ .error .notFound := by
        rw [make_directory_making written fits base]
        intro missing
        apply found
        cases followed : tree.follow false linkLimit (tree.origin path) (front ++ ["."]) with
        | error fault =>
            simp only [followed, Except.bind, Except.error.injEq] at missing
            rw [missing] at followed
            exact follow_outer followed last
        | ok around =>
            simp only [followed, Except.bind] at missing
            obtain ⟨down, short, free⟩ := make_in_not_found missing
            exact follow_to_nothing (follow_point_iff.mp followed) isMove down short free
      rw [make_along_concat, make_with_found _ _ _ there]
      rcases make_or_find_cases written fits base with unchanged | ⟨around, arrives, isOpen⟩
      · exact unchanged
      · exact absurd
          (follow_to_nothing arrives isMove isOpen.down isOpen.short isOpen.free) found

/-- The directories of a path are made one after the other: which of them is tried first does not
matter. -/
theorem make_along_next (tree : Tree) (written : Path.Written (front ++ [last]))
    (fits : (path.making (front ++ [last])).text.utf8ByteSize ≤ pathLimit)
    (base : tree.entryAt? (tree.origin path) = some .directory) :
    (tree.makeAlong path (front ++ [last])).1.isNone
        = (makeNext (tree.makeAlong path front) (path.making (front ++ [last]))).1.isNone
      ∧ (tree.makeAlong path (front ++ [last])).2
        = (makeNext (tree.makeAlong path front) (path.making (front ++ [last]))).2 := by
  rw [make_along_concat]
  by_cases missing : tree.makeDirectory (path.making (front ++ [last])) = .error .notFound
  · rw [make_with_missing _ _ _ missing]
    exact ⟨rfl, rfl⟩
  · rw [make_with_found _ _ _ missing]
    have found : tree.follow false linkLimit (tree.origin path) (front ++ ["."])
        ≠ .error .notFound := by
      intro followed
      apply missing
      rw [make_directory_making written fits base, followed]
      rfl
    obtain ⟨unchanged, arrived⟩ := tree.make_along_found written.front
      (Nat.le_trans (path.making_grows front last) fits) base found
    rcases parent : tree.makeAlong path front with ⟨_ | fault, made⟩
    · rw [parent] at unchanged
      obtain rfl : made = tree := unchanged
      exact ⟨rfl, rfl⟩
    · rw [parent] at unchanged arrived
      have stuck : ¬∃ place, tree.Arrives (tree.origin path) front place := by
        rw [← arrived]
        simp
      rcases make_or_find_cases written fits base with ⟨same, reached⟩ | ⟨around, arrives, -⟩
      · have failed : (tree.makeOrFind (path.making (front ++ [last]))).1 ≠ none := by
          rw [ne_eq, reached]
          rintro ⟨place, arrives⟩
          exact stuck arrives.outer
        refine ⟨?_, same.trans unchanged.symm⟩
        rw [makeNext, Bool.eq_iff_iff, Option.isNone_iff_eq_none]
        simpa using failed
      · exact absurd ⟨around, arrives⟩ stuck

/-- Some stops of a way have become directories. Where all of them are, the way leads to one. -/
structure MadeAlong (tree : Tree) (start : Location) (moves : List String)
    (result : Option SystemFault × Tree) : Prop where
  current : result.2.current = tree.current
  turned : ∀ location, result.2.entryAt? location = tree.entryAt? location
    ∨ location ∈ tree.stops start moves ∧ Made tree result.2 location
  arrived : result.1 = none → ∃ place, result.2.Arrives start moves place

theorem MadeAlong.grown {result : Option SystemFault × Tree}
    (along : MadeAlong tree start moves result) : Grown tree result.2 where
  current := along.current
  turned location := (along.turned location).imp_right fun made => .inl made.2

/-- A directory that is a name in a directory is led to as well. -/
theorem Arrives.down (arrives : tree.Arrives start front around)
    (isMove : Path.isMove last = true) (down : last ≠ "..")
    (short : last.utf8ByteSize ≤ nameLimit)
    (directory : tree.entryAt? (around ++ [last]) = some .directory) :
    tree.Arrives start (front ++ [last]) (around ++ [last]) := by
  obtain ⟨asked, ends⟩ :=
    route_down arrives.ends isMove down short (no_link_of_directory directory)
  refine .of_asked ?_ ends directory
  rw [asked]
  intro other member
  rcases List.mem_append.mp member with before | last
  · exact arrives.asked other before
  · rw [List.mem_singleton.mp last, arrives.directory]

theorem make_along (tree : Tree) (written : Path.Written moves)
    (fits : (path.making moves).text.utf8ByteSize ≤ pathLimit)
    (base : tree.entryAt? (tree.origin path) = some .directory) :
    MadeAlong tree (tree.origin path) moves (tree.makeAlong path moves) := by
  induction moves using List.reverseRecOn with
  | nil =>
      rw [makeAlong, List.map_nil, List.append_nil, tree.make_nested_start base fits]
      exact ⟨rfl, fun _ => .inl rfl, fun _ => ⟨_, .none base⟩⟩
  | append_singleton front last induction =>
      have isMove := (written last (by simp)).1
      have parent := induction written.front (Nat.le_trans (path.making_grows front last) fits)
      obtain ⟨arrived, made⟩ := tree.make_along_next written fits base
      revert parent arrived made
      generalize tree.makeAlong path front = parent
      rcases parent with ⟨_ | fault, between⟩
      · intro parent arrived made
        dsimp only [makeNext] at arrived made
        have grown := parent.grown
        have origin := grown.origin path
        dsimp only at grown origin
        have baseThere : between.entryAt? (between.origin path) = some .directory := by
          rw [origin]
          exact grown.directory base
        have wider : ∀ {location : Location},
            location ∈ tree.stops (tree.origin path) front →
              location ∈ tree.stops (tree.origin path) (front ++ [last]) :=
          fun member => stops_front member (List.prefix_append _ _)
        rcases make_or_find_cases written fits baseThere with
          ⟨unchanged, reached⟩ | ⟨around, arrives, isOpen⟩
        · rw [unchanged] at made
          rw [origin] at reached
          refine ⟨?_, ?_, ?_⟩
          · rw [made, parent.current]
          · intro location
            rw [made]
            exact (parent.turned location).imp_right fun ⟨member, isMade⟩ =>
              ⟨wider member, made ▸ isMade⟩
          · intro none
            rw [made]
            apply reached.mp
            rwa [← Option.isNone_iff_eq_none, ← arrived, Option.isNone_iff_eq_none]
        · rw [make_or_find_open written fits baseThere arrives isOpen] at made
          rw [origin] at arrives
          obtain ⟨further, here, elsewhere⟩ := put_at_free isOpen.free isOpen.allowed
          have stop : around ++ [last] ∈ tree.stops (tree.origin path) (front ++ [last]) :=
            mem_stops.mpr ⟨_, List.prefix_rfl, stop_concat isOpen.down
              (by rw [← grown.ending, arrives.ends])⟩
          have free := grown.free_of_free isOpen.free
          refine ⟨?_, ?_, ?_⟩
          · rw [made, put_current, parent.current]
          · intro location
            by_cases same : location = around ++ [last]
            · rw [same]
              refine .inr ⟨stop, free, makeable_of_free isOpen.allowed isOpen.free free, ?_⟩
              rw [made, here]
            · rw [made, elsewhere location same]
              refine (parent.turned location).imp_right fun ⟨member, isMade⟩ =>
                ⟨wider member, isMade.free, isMade.allowed, ?_⟩
              rw [elsewhere location same, isMade.made]
          · intro _
            rw [made]
            exact ⟨_, (further.arrives arrives).down isMove isOpen.down isOpen.short here⟩
      · intro parent arrived made
        dsimp only [makeNext] at arrived made
        refine ⟨by rw [made, parent.current], ?_, ?_⟩
        · intro location
          rw [made]
          exact (parent.turned location).imp_right fun ⟨member, isMade⟩ =>
            ⟨stops_front member (List.prefix_append _ _), made ▸ isMade⟩
        · intro none
          rw [none] at arrived
          cases arrived

/-! ### Making directories in two trees -/

/-- A way leads to a directory in both of two trees or in none, when nothing has been put where it
asks for something. -/
theorem Grown.arrives_iff (grown : Grown tree later) {place : Location}
    (free : ∀ place ∈ tree.standing start moves,
      tree.entryAt? place = none → later.entryAt? place = none) :
    later.Arrives start moves place ↔ tree.Arrives start moves place := by
  rw [← follow_point_iff, ← follow_point_iff, grown.follow free]

/-- A place on the way to a name where nothing is belongs to the link that has the name, or is the
place of the name. -/
theorem free_on_way (isMove : Path.isMove last = true) (base : tree.Rooted start)
    (arrives : tree.Arrives start front around) {place : Location}
    (asked : place ∈ tree.standing start (front ++ [last]))
    (free : tree.entryAt? place = none) :
    ((tree.stop? start (front ++ [last])).bind tree.linkAt?).isSome = true
      ∨ last ≠ ".." ∧ last.utf8ByteSize ≤ nameLimit ∧ place = around ++ [last]
        ∧ tree.ending? start (front ++ [last]) = some place := by
  have no_directory : tree.entryAt? place ≠ some .directory := by
    rw [free]
    simp
  have before : ∀ other ∈ (tree.route false linkLimit start front).asked ++ [around],
      tree.entryAt? other = some .directory := by
    intro other member
    rcases List.mem_append.mp member with earlier | here
    · exact arrives.asked other earlier
    · rw [List.mem_singleton.mp here, arrives.directory]
  by_cases up : last = ".."
  · rw [up] at asked
    exact absurd ((arrives.up base).directories place asked) no_directory
  by_cases short : last.utf8ByteSize ≤ nameLimit
  · cases link : tree.linkAt? (around ++ [last]) with
    | some target =>
        left
        rw [stop_concat up arrives.ends, Option.bind_some, link]
        rfl
    | none =>
        rw [standing_down arrives.ends isMove up short link] at asked
        rcases List.mem_append.mp asked with earlier | here
        · exact absurd (before place earlier) no_directory
        · have isPlace := List.mem_singleton.mp here
          exact .inr ⟨up, short, isPlace,
            isPlace ▸ (route_down arrives.ends isMove up short link).2⟩
  · rw [standing, point_route, route_too_long arrives.ends isMove up (by omega)] at asked
    exact absurd (before place asked) no_directory

/-- Nothing has been put where the way to a name that is not open asks for something. -/
theorem closed_alike (grown : Grown tree later) (isMove : Path.isMove last = true)
    (base : tree.Rooted start) (arrives : tree.Arrives start front around)
    (closed : ¬tree.Open around last)
    (stop : ∀ place, tree.stop? start (front ++ [last]) = some place →
      tree.entryAt? place = none → later.entryAt? place = none ∨ Made tree later place)
    (linked : ((tree.stop? start (front ++ [last])).bind tree.linkAt?).isSome = true →
      ∀ place ∈ tree.standing start (front ++ [last]),
        tree.entryAt? place = none → later.entryAt? place = none) :
    ∀ place, later.Arrives start (front ++ [last]) place
      ↔ tree.Arrives start (front ++ [last]) place := by
  intro place
  apply grown.arrives_iff
  intro other asked free
  rcases free_on_way isMove base arrives asked free with link | ⟨down, short, rfl, -⟩
  · exact linked link other asked free
  · rcases stop _ (stop_concat down arrives.ends) free with left | made
    · exact left
    · exact absurd ⟨down, short, made.free, made.allowed⟩ closed

/-- One directory is made or found in both of two trees or in none. -/
theorem make_or_find_alike (written : Path.Written (front ++ [last]))
    (fits : (path.making (front ++ [last])).text.utf8ByteSize ≤ pathLimit)
    (grown : Grown tree later) (base : tree.Rooted (tree.origin path))
    (standing : tree.entryAt? (tree.origin path) = some .directory)
    (arrives : tree.Arrives (tree.origin path) front around)
    (stop : ∀ place, tree.stop? (tree.origin path) (front ++ [last]) = some place →
      tree.entryAt? place = none → later.entryAt? place = none ∨ Made tree later place)
    (linked : ((tree.stop? (tree.origin path) (front ++ [last])).bind tree.linkAt?).isSome = true →
      ∀ place ∈ tree.standing (tree.origin path) (front ++ [last]),
        tree.entryAt? place = none → later.entryAt? place = none) :
    (tree.makeOrFind (path.making (front ++ [last]))).1.isNone
        = (later.makeOrFind (path.making (front ++ [last]))).1.isNone
      ∧ Alike tree later (tree.makeOrFind (path.making (front ++ [last]))).2
        (later.makeOrFind (path.making (front ++ [last]))).2 := by
  have isMove := (written last (by simp)).1
  have origin := grown.origin path
  have standingLater : later.entryAt? (later.origin path) = some .directory := by
    rw [origin]
    exact grown.directory standing
  have arrivesLater : later.Arrives (later.origin path) front around := by
    rw [origin]
    exact grown.arrives arrives
  by_cases isOpen : tree.Open around last
  · obtain ⟨further, here, elsewhere⟩ := put_at_free isOpen.free isOpen.allowed
    rw [make_or_find_open written fits standing arrives isOpen]
    rcases stop _ (stop_concat isOpen.down arrives.ends) isOpen.free with free | made
    · have openLater : later.Open around last :=
        ⟨isOpen.down, isOpen.short, free, makeable_of_free isOpen.allowed isOpen.free free⟩
      obtain ⟨-, hereLater, elsewhereLater⟩ := put_at_free openLater.free openLater.allowed
      rw [make_or_find_open written fits standingLater arrivesLater openLater]
      refine ⟨rfl, rfl, rfl, ?_⟩
      intro location
      by_cases there : location = around ++ [last]
      · rw [there, here, hereLater]
        exact .inl rfl
      · exact .inr ⟨elsewhere location there, elsewhereLater location there⟩
    · -- Another job has made the directory, which is found.
      have closed : ¬later.Open around last := by
        intro openLater
        have there := made.made
        rw [openLater.free] at there
        cases there
      obtain ⟨unchanged, found⟩ :=
        make_or_find_closed written fits standingLater arrivesLater closed
      have reached := found.mpr
        ⟨_, arrivesLater.down isMove isOpen.down isOpen.short made.made⟩
      rw [unchanged, reached]
      refine ⟨rfl, rfl, rfl, ?_⟩
      intro location
      by_cases there : location = around ++ [last]
      · rw [there, here, made.made]
        exact .inl rfl
      · exact .inr ⟨elsewhere location there, rfl⟩
  · have closedLater : ¬later.Open around last := by
      intro openLater
      have free := grown.free_of_free openLater.free
      exact isOpen ⟨openLater.down, openLater.short, free,
        makeable_of_free openLater.allowed openLater.free free⟩
    obtain ⟨unchanged, found⟩ := make_or_find_closed written fits standing arrives isOpen
    obtain ⟨unchangedLater, foundLater⟩ :=
      make_or_find_closed written fits standingLater arrivesLater closedLater
    have both := closed_alike grown isMove base arrives isOpen stop linked
    rw [unchanged, unchangedLater]
    refine ⟨?_, .refl tree later⟩
    rw [Bool.eq_iff_iff, Option.isNone_iff_eq_none, Option.isNone_iff_eq_none, found, foundLater,
      origin]
    exact exists_congr fun place => (both place).symm

/-- The directories of a path come to be the same in two trees that differ only by directories on
the way, when nothing has been put where its links ask for something. -/
theorem make_along_alike (written : Path.Written moves)
    (fits : (path.making moves).text.utf8ByteSize ≤ pathLimit) (grown : Grown tree later)
    (base : tree.Rooted (tree.origin path))
    (standing : tree.entryAt? (tree.origin path) = some .directory)
    (stops : ∀ place ∈ tree.stops (tree.origin path) moves,
      tree.entryAt? place = none → later.entryAt? place = none ∨ Made tree later place)
    (linked : ∀ place ∈ tree.behindLinks (tree.origin path) moves,
      tree.entryAt? place = none → later.entryAt? place = none) :
    (tree.makeAlong path moves).1.isNone = (later.makeAlong path moves).1.isNone
      ∧ Alike tree later (tree.makeAlong path moves).2 (later.makeAlong path moves).2 := by
  have standingLater : later.entryAt? (later.origin path) = some .directory := by
    rw [grown.origin]
    exact grown.directory standing
  induction moves using List.reverseRecOn with
  | nil =>
      rw [makeAlong, makeAlong, List.map_nil, List.append_nil,
        tree.make_nested_start standing fits, later.make_nested_start standingLater fits]
      exact ⟨rfl, .refl tree later⟩
  | append_singleton front last induction =>
      have fitsFront := Nat.le_trans (path.making_grows front last) fits
      obtain ⟨same, alike⟩ := induction written.front fitsFront
        (fun place member => stops place (stops_front member (List.prefix_append _ _)))
        fun place member => linked place (behind_links_front member (List.prefix_append _ _))
      have along := tree.make_along written.front fitsFront standing
      obtain ⟨arrived, made⟩ := tree.make_along_next written fits standing
      obtain ⟨arrivedLater, madeLater⟩ := later.make_along_next written fits standingLater
      rw [arrived, arrivedLater, made, madeLater]
      clear arrived arrivedLater made madeLater
      revert same alike along
      rcases tree.makeAlong path front with ⟨_ | fault, between⟩ <;>
        rcases later.makeAlong path front with ⟨_ | faultLater, betweenLater⟩ <;>
        intro same alike along
      · obtain ⟨around, arrives⟩ := along.arrived rfl
        have ownGrown := along.grown
        have origin := ownGrown.origin path
        dsimp only at alike arrives ownGrown origin
        rw [← origin] at arrives
        have stopThere : ∀ place,
            between.stop? (between.origin path) (front ++ [last]) = some place →
              between.entryAt? place = none →
                betweenLater.entryAt? place = none ∨ Made between betweenLater place := by
          intro place isStop free
          rw [origin, ownGrown.stop] at isStop
          rcases alike.entries place with kept | ⟨left, leftLater⟩
          · exact .inl (kept.trans free)
          · rw [leftLater]
            rcases stops place (mem_stops.mpr ⟨_, List.prefix_rfl, isStop⟩)
              (ownGrown.free_of_free free) with kept | isMade
            · exact .inl kept
            · exact .inr ⟨free, makeable_of_free isMade.allowed isMade.free free,
                leftLater.trans isMade.made⟩
        have linkedThere :
            ((between.stop? (between.origin path) (front ++ [last])).bind
              between.linkAt?).isSome = true →
            ∀ place ∈ between.standing (between.origin path) (front ++ [last]),
              between.entryAt? place = none → betweenLater.entryAt? place = none := by
          intro link place asked free
          rw [origin, ownGrown.stop, ownGrown.link_at] at link
          rw [origin, ownGrown.standing] at asked
          exact alike.free ownGrown
            (linked place (mem_behind_links.mpr ⟨_, List.prefix_rfl, link, asked⟩)) free
        obtain ⟨stepped, further⟩ := make_or_find_alike written fits (alike.grown grown)
          (by rw [origin]; exact ownGrown.rooted base)
          (by rw [origin]; exact ownGrown.directory standing) arrives stopThere linkedThere
        exact ⟨stepped, alike.trans further⟩
      · cases same
      · cases same
      · exact ⟨rfl, alike⟩

/-- A path of more than can be asked for is refused at once. -/
theorem make_along_too_long (tree : Tree) (written : Path.Written moves)
    (long : pathLimit < (path.making moves).text.utf8ByteSize) :
    tree.makeAlong path moves = (some .nameTooLong, tree) := by
  cases moves using List.reverseRecOn with
  | nil =>
      exfalso
      revert long
      obtain ⟨text, -⟩ | ⟨text, -⟩ | ⟨text, -⟩ := path.making_none <;> rw [text] <;> decide
  | append_singleton front last =>
      obtain ⟨isLast, isMove⟩ := making_ends written path
      have refused (filling : Bool) (steps : List String) :
          tree.locateSteps filling (path.making (front ++ [last])) steps
            = .error .nameTooLong := by
        rw [locateSteps, if_neg (text_of_move isLast isMove), if_pos long]
      have failed : tree.makeDirectory (path.making (front ++ [last])) = .error .nameTooLong := by
        rw [makeDirectory, refused]
      have no_directory : tree.isDirectory (path.making (front ++ [last])) = false := by
        simp only [isDirectory, lookup, locate, refused]
      rw [make_along_concat, make_with_found _ _ _ (by rw [failed]; simp), makeOrFind, failed,
        no_directory]
      rfl

/-! ### The directories around the end of a path -/

/-- The places of the names around the end of a path. -/
def passed (tree : Tree) (path : Path) : List Location :=
  tree.stops (tree.origin path) path.moves.dropLast

theorem make_directories_eq (tree : Tree) (path : Path) :
    tree.makeDirectories (path.making path.moves.dropLast)
      = tree.makeAlong path path.moves.dropLast := by
  have written : Path.Written path.moves.dropLast :=
    fun move member => path.written_moves move ((List.dropLast_sublist _).subset member)
  rw [makeDirectories, path.making_components written]
  rfl

theorem make_around (tree : Tree) (path : Path)
    (standing : tree.entryAt? (tree.origin path) = some .directory) :
    MadeAlong tree (tree.origin path) path.moves.dropLast
      (tree.makeDirectories (path.making path.moves.dropLast)) := by
  have written : Path.Written path.moves.dropLast :=
    fun move member => path.written_moves move ((List.dropLast_sublist _).subset member)
  rw [make_directories_eq]
  by_cases fits : (path.making path.moves.dropLast).text.utf8ByteSize ≤ pathLimit
  · exact tree.make_along written fits standing
  · rw [tree.make_along_too_long written (by omega)]
    exact ⟨rfl, fun _ => .inl rfl, fun none => by cases none⟩

theorem make_around_alike (grown : Grown tree later) (base : tree.Rooted (tree.origin path))
    (standing : tree.entryAt? (tree.origin path) = some .directory)
    (stops : ∀ place ∈ tree.passed path,
      tree.entryAt? place = none → later.entryAt? place = none ∨ Made tree later place)
    (linked : ∀ place ∈ tree.behindLinks (tree.origin path) path.moves.dropLast,
      tree.entryAt? place = none → later.entryAt? place = none) :
    (tree.makeDirectories (path.making path.moves.dropLast)).1.isNone
        = (later.makeDirectories (path.making path.moves.dropLast)).1.isNone
      ∧ Alike tree later (tree.makeDirectories (path.making path.moves.dropLast)).2
        (later.makeDirectories (path.making path.moves.dropLast)).2 := by
  have written : Path.Written path.moves.dropLast :=
    fun move member => path.written_moves move ((List.dropLast_sublist _).subset member)
  rw [make_directories_eq, make_directories_eq]
  by_cases fits : (path.making path.moves.dropLast).text.utf8ByteSize ≤ pathLimit
  · exact make_along_alike written fits grown base standing stops linked
  · rw [tree.make_along_too_long written (by omega), later.make_along_too_long written (by omega)]
    exact ⟨rfl, .refl tree later⟩

end Tree

end AccessWeave
