import AccessWeave.Proofs.Host.MakingDirectories
import Mathlib.Data.List.Nodup

/-!
# Files below a directory

What is found below a directory is what the names in it lead to, over links as well, and is no
directory itself. Names that lead there lead over directories, and the last of them is there, at
least as a link. Where no links are, different names lead to different places.
-/

namespace AccessWeave

def Entry.isLink : Entry → Bool
  | link _ => true
  | _ => false

namespace Tree

/-- A tree as a file system has it. Every location is listed once, in a directory and with names
that can be written, and work goes on in a directory. Where links lead is left open. -/
structure WellFormed (tree : Tree) : Prop where
  once : (tree.entries.map Prod.fst).Nodup
  inside : ∀ entry ∈ tree.entries,
    entry.1 ≠ [] ∧ tree.entryAt? entry.1.dropLast = some .directory
  named : ∀ entry ∈ tree.entries, ∀ name ∈ entry.1,
    Path.isMove name = true ∧ name ≠ ".." ∧ '/' ∉ name.toList
  standing : tree.entryAt? tree.current = some .directory

/-- What the names lead to is found below a directory. -/
inductive Below (tree : Tree) : Path → List String → Prop
  | here {directory : Path} {name : String} (listed : name ∈ tree.namesAt directory)
      (whole : tree.isDirectory (directory.inside name) = false) : Below tree directory [name]
  | inner {directory : Path} {name : String} {names : List String}
      (listed : name ∈ tree.namesAt directory)
      (further : tree.isDirectory (directory.inside name) = true)
      (below : Below tree (directory.inside name) names) : Below tree directory (name :: names)

variable {tree : Tree}

/-! ### What is listed -/

theorem mem_of_entry_at {location : Location} {entry : Entry} (inner : location ≠ [])
    (found : tree.entryAt? location = some entry) : (location, entry) ∈ tree.entries := by
  rw [entryAt?, if_neg inner, Option.map_eq_some_iff] at found
  obtain ⟨⟨place, there⟩, listed, rfl⟩ := found
  have same : place = location := by simpa using List.find?_some listed
  rw [← same]
  exact List.mem_of_find?_eq_some listed

/-- The name that is told from a place is the last one, behind the location. -/
theorem name_behind_iff {location found : Location} {name : String} :
    (match location.isPrefixOf? found with
      | some [name] => some name
      | _ => none) = some name ↔ found = location ++ [name] := by
  constructor
  · intro matching
    split at matching
    · rename_i rest
      rw [List.isPrefixOf?_eq_some_iff_append_eq] at rest
      rw [← rest, Option.some.inj matching]
    · cases matching
  · rintro rfl
    have rest : location.isPrefixOf? (location ++ [name]) = some [name] :=
      List.isPrefixOf?_eq_some_iff_append_eq.mpr rfl
    simp only [rest]

theorem mem_names {location : Location} {name : String} :
    name ∈ tree.names location ↔ ∃ entry, (location ++ [name], entry) ∈ tree.entries := by
  rw [names, List.mem_filterMap]
  constructor
  · rintro ⟨⟨place, entry⟩, listed, matching⟩
    rw [← name_behind_iff.mp matching]
    exact ⟨entry, listed⟩
  · rintro ⟨entry, listed⟩
    exact ⟨_, listed, name_behind_iff.mpr rfl⟩

theorem mem_names_at {directory : Path} {name : String} :
    name ∈ tree.namesAt directory ↔
      ∃ place, tree.locate directory = .ok place ∧ name ∈ tree.names place := by
  rw [namesAt]
  cases tree.locate directory <;> simp

namespace WellFormed

theorem entry_of_mem (wellFormed : tree.WellFormed) {location : Location} {entry : Entry}
    (listed : (location, entry) ∈ tree.entries) : tree.entryAt? location = some entry := by
  rw [entryAt?, if_neg (wellFormed.inside _ listed).1, Option.map_eq_some_iff]
  refine ⟨(location, entry), ?_, rfl⟩
  have once := wellFormed.once
  revert listed once
  induction tree.entries with
  | nil => simp
  | cons first others induction =>
      intro listed once
      rw [List.map_cons, List.nodup_cons] at once
      rcases List.mem_cons.mp listed with here | later
      · rw [← here, List.find?_cons_of_pos (by simp)]
      · have different : first.1 ≠ location := by
          intro same
          apply once.1
          rw [same]
          exact List.mem_map_of_mem later
        rw [List.find?_cons_of_neg (by simpa using different)]
        exact induction later once.2

/-- What is around a place where something is is a directory. -/
theorem around (wellFormed : tree.WellFormed) {front back : Location}
    (present : (tree.entryAt? (front ++ back)).isSome = true) (below : back ≠ []) :
    tree.entryAt? front = some .directory := by
  induction back using List.reverseRecOn with
  | nil => exact absurd rfl below
  | append_singleton back last induction =>
      obtain ⟨entry, found⟩ := Option.isSome_iff_exists.mp present
      have listed := mem_of_entry_at (by simp) found
      have outer := (wellFormed.inside _ listed).2
      rw [← List.append_assoc, List.dropLast_concat] at outer
      by_cases none : back = []
      · rwa [none, List.append_nil] at outer
      · exact induction (by rw [outer]; rfl) none

theorem grounded (wellFormed : tree.WellFormed) : tree.Grounded where
  standing := wellFormed.standing
  rooted := by
    refine ⟨?_, no_link_of_directory wellFormed.standing⟩
    rintro outer ⟨rest, whole⟩ inner
    have below : rest ≠ [] := by
      rintro rfl
      exact inner (by simpa using whole)
    refine wellFormed.around ?_ below
    rw [whole, wellFormed.standing]
    rfl

theorem names_nodup (wellFormed : tree.WellFormed) (location : Location) :
    (tree.names location).Nodup := by
  rw [names, List.Nodup, List.pairwise_filterMap]
  apply (List.pairwise_map.mp wellFormed.once).imp
  intro left right different name isLeft other isRight same
  apply different
  rw [name_behind_iff.mp isLeft, name_behind_iff.mp isRight, same]

variable {directory : Path} {name : String}

theorem name_listed (wellFormed : tree.WellFormed) (listed : name ∈ tree.namesAt directory) :
    Path.isMove name = true ∧ name ≠ ".." ∧ '/' ∉ name.toList := by
  obtain ⟨place, -, member⟩ := mem_names_at.mp listed
  obtain ⟨entry, isEntry⟩ := mem_names.mp member
  exact wellFormed.named _ isEntry name (by simp)

theorem name_counted (wellFormed : tree.WellFormed) (listed : name ∈ tree.namesAt directory) :
    name ≠ "" := by
  have isMove := (wellFormed.name_listed listed).1
  simp [Path.isMove] at isMove
  exact isMove.1

/-! ### The depth of a search -/

theorem files_within_nodup (wellFormed : tree.WellFormed) (depth : Nat) (directory : Path) :
    (tree.filesWithin depth directory).Nodup := by
  induction depth generalizing directory with
  | zero => exact List.nodup_nil
  | succ depth induction =>
      have names : (tree.namesAt directory).Nodup := by
        rw [namesAt]
        cases tree.locate directory with
        | error fault => exact List.nodup_nil
        | ok place => exact wellFormed.names_nodup place
      have begun : ∀ (name : String) (found : List String), found ∈
          (if tree.isDirectory (directory.inside name) then
            (tree.filesWithin depth (directory.inside name)).map (name :: ·) else [[name]]) →
          found.head? = some name := by
        intro name found member
        split at member
        · obtain ⟨rest, -, rfl⟩ := List.mem_map.mp member
          rfl
        · rw [List.mem_singleton.mp member]
          rfl
      rw [filesWithin, List.nodup_flatMap]
      constructor
      · intro name _
        split
        · exact (induction _).map fun left right same => (List.cons.inj same).2
        · exact List.nodup_singleton _
      · apply names.imp
        intro left right different found isLeft isRight
        have same := (begun left found isLeft).symm.trans (begun right found isRight)
        exact different (Option.some.inj same)

end WellFormed

theorem below_of_mem {depth : Nat} {directory : Path} {names : List String}
    (found : names ∈ tree.filesWithin depth directory) : tree.Below directory names := by
  induction depth generalizing directory names with
  | zero => simp [filesWithin] at found
  | succ depth induction =>
      rw [filesWithin, List.mem_flatMap] at found
      obtain ⟨name, listed, member⟩ := found
      split at member
      · rename_i further
        obtain ⟨rest, inside, rfl⟩ := List.mem_map.mp member
        exact .inner listed further (induction inside)
      · rename_i whole
        rw [List.mem_singleton.mp member]
        exact .here listed (by simpa using whole)

/-- A directory has a path that is not empty and not too long. -/
theorem is_directory_fits {path : Path} (directory : tree.isDirectory path = true) :
    path.text ≠ "" ∧ path.text.utf8ByteSize ≤ pathLimit := by
  obtain ⟨place, found, -⟩ := lookup_ok_iff.mp (is_directory_iff.mp directory)
  rw [locate, locateSteps] at found
  split_ifs at found with empty long
  exact ⟨empty, by omega⟩

/-- Every directory on the way down makes the path longer, so a search as deep as the longest path
leaves nothing out. -/
theorem mem_of_below (wellFormed : tree.WellFormed) {depth : Nat} {directory : Path}
    {names : List String} (isDirectory : tree.isDirectory directory = true)
    (below : tree.Below directory names)
    (deep : pathLimit < depth + directory.text.utf8ByteSize) :
    names ∈ tree.filesWithin depth directory := by
  induction below generalizing depth with
  | here listed whole =>
      have fits := (is_directory_fits isDirectory).2
      obtain ⟨less, rfl⟩ : ∃ less, depth = less + 1 := Nat.exists_eq_succ_of_ne_zero (by omega)
      rw [filesWithin, List.mem_flatMap]
      exact ⟨_, listed, by simp [whole]⟩
  | @inner directory name names listed further below induction =>
      have fits := (is_directory_fits isDirectory).2
      have longer := directory.inside_grows (wellFormed.name_counted listed)
      obtain ⟨less, rfl⟩ : ∃ less, depth = less + 1 := Nat.exists_eq_succ_of_ne_zero (by omega)
      rw [filesWithin, List.mem_flatMap]
      refine ⟨_, listed, ?_⟩
      rw [if_pos further]
      exact List.mem_map_of_mem (induction further (by omega))

/-- A search finds all that is below a directory. -/
theorem mem_files_below_iff (wellFormed : tree.WellFormed) {directory : Path}
    (isDirectory : tree.isDirectory directory = true) {names : List String} :
    names ∈ tree.filesBelow directory ↔ tree.Below directory names := by
  refine ⟨below_of_mem, fun below => mem_of_below wellFormed isDirectory below ?_⟩
  have counted := (is_directory_fits isDirectory).1
  have size : directory.text.utf8ByteSize ≠ 0 := by
    rwa [ne_eq, String.utf8ByteSize_eq_zero_iff]
  omega

/-! ### Where names lead -/

namespace Below

variable {directory : Path} {names : List String}

theorem some_name (below : tree.Below directory names) : names ≠ [] := by
  cases below <;> exact List.cons_ne_nil _ _

theorem named (wellFormed : tree.WellFormed) (below : tree.Below directory names) :
    ∀ name ∈ names, Path.isMove name = true ∧ name ≠ ".." ∧ '/' ∉ name.toList := by
  induction below with
  | here listed whole => simpa using wellFormed.name_listed listed
  | inner listed further below induction =>
      rw [List.forall_mem_cons]
      exact ⟨wellFormed.name_listed listed, induction⟩

theorem down (wellFormed : tree.WellFormed) (below : tree.Below directory names) :
    ∀ name ∈ names, Path.isMove name = true ∧ name ≠ ".." := by
  intro name member
  obtain ⟨isMove, down, -⟩ := below.named wellFormed name member
  exact ⟨isMove, down⟩

theorem written (wellFormed : tree.WellFormed) (below : tree.Below directory names) :
    Path.Written names := by
  intro name member
  obtain ⟨isMove, -, whole⟩ := below.named wellFormed name member
  exact ⟨isMove, whole⟩

theorem inside_cons (wellFormed : tree.WellFormed) {name : String}
    (listed : name ∈ tree.namesAt directory) (below : tree.Below (directory.inside name) names) :
    (directory.inside name).inside (String.intercalate "/" names)
      = directory.inside (String.intercalate "/" (name :: names)) := by
  obtain ⟨next, others, rfl⟩ := List.exists_cons_of_ne_nil below.some_name
  rw [directory.inside_inside (wellFormed.name_counted listed) (wellFormed.name_listed listed).2.2,
    String.intercalate_cons_cons]

/-- What is found is no directory. -/
theorem no_directory (wellFormed : tree.WellFormed) (below : tree.Below directory names) :
    tree.isDirectory (directory.inside (String.intercalate "/" names)) = false := by
  induction below with
  | here listed whole => simpa using whole
  | inner listed further below induction =>
      rw [← inside_cons wellFormed listed below, induction]

/-- Nothing is found around what is found as well. -/
theorem not_around {others : List String} (left : tree.Below directory names)
    (right : tree.Below directory others) : ¬names <+: others.dropLast := by
  induction left generalizing others with
  | here listed whole =>
      intro around
      cases right with
      | here => simp at around
      | inner _ further below =>
          rw [List.dropLast_cons_of_ne_nil below.some_name, List.cons_prefix_cons] at around
          rw [← around.1, whole] at further
          cases further
  | inner listed further below induction =>
      intro around
      cases right with
      | here => simp at around
      | inner _ _ inside =>
          rw [List.dropLast_cons_of_ne_nil inside.some_name, List.cons_prefix_cons] at around
          obtain ⟨rfl, around⟩ := around
          exact induction inside around

theorem inside_origin (wellFormed : tree.WellFormed) (below : tree.Below directory names)
    (path : Path) :
    tree.origin (path.inside (String.intercalate "/" names)) = tree.origin path := by
  rw [origin, startOf, path.inside_is_absolute (below.written wellFormed) below.some_name, origin,
    startOf]

/-- Names that are found lead over directories, and the last of them is there. -/
theorem found (wellFormed : tree.WellFormed) (isDirectory : tree.isDirectory directory = true)
    (below : tree.Below directory names) :
    ∃ around last, names.getLast? = some last
      ∧ tree.Arrives (tree.origin directory) (directory.moves ++ names.dropLast) around
      ∧ tree.entryAt? (around ++ [last]) ≠ none := by
  induction below with
  | @here directory name listed whole =>
      obtain ⟨place, located, arrives⟩ := arrives_of_is_directory isDirectory
      obtain ⟨other, again, member⟩ := mem_names_at.mp listed
      obtain rfl := Except.ok.inj (located.symm.trans again)
      obtain ⟨entry, isEntry⟩ := mem_names.mp member
      refine ⟨place, name, rfl, ?_, ?_⟩
      · rw [List.dropLast_singleton, List.append_nil]
        exact arrives
      · rw [wellFormed.entry_of_mem isEntry]
        simp
  | @inner directory name names listed further below induction =>
      obtain ⟨around, last, isLast, arrives, there⟩ := induction further
      have named : Path.Written [name] := by
        simpa [Path.Written] using ⟨(wellFormed.name_listed listed).1,
          (wellFormed.name_listed listed).2.2⟩
      have moves := directory.inside_moves named (by simp)
      have absolute := directory.inside_is_absolute named (by simp)
      rw [String.intercalate_singleton] at moves absolute
      rw [origin, startOf, absolute, moves] at arrives
      refine ⟨around, last, ?_, ?_, there⟩
      · rw [List.getLast?_cons, isLast]
        rfl
      · rw [List.dropLast_cons_of_ne_nil below.some_name, List.append_cons]
        exact arrives

end Below

/-- The names on a way that leads to a directory are there. -/
theorem stops_there {start place : Location} {moves : List String}
    (written : Path.Written moves) (arrives : tree.Arrives start moves place) :
    ∀ stop ∈ tree.stops start moves, tree.entryAt? stop ≠ none := by
  intro stop member free
  obtain ⟨front, ⟨back, rfl⟩, isStop⟩ := mem_stops.mp member
  obtain ⟨reached, arrived⟩ := arrives.outer
  rw [stop?] at isStop
  split at isStop
  · cases isStop
  · rename_i last isLast
    split_ifs at isStop with up
    obtain ⟨around, ends, rfl⟩ := Option.map_eq_some_iff.mp isStop
    obtain ⟨front, rfl⟩ := List.getLast?_eq_some_iff.mp isLast
    rw [List.dropLast_concat] at ends
    have isMove := (written last (by simp)).1
    have no_link : tree.linkAt? (around ++ [last]) = none :=
      no_link_at fun target => by rw [free]; simp
    by_cases short : last.utf8ByteSize ≤ nameLimit
    · have there := (route_down ends isMove up short no_link).2
      rw [arrived.ends] at there
      have directory := arrived.directory
      rw [Option.some.inj there, free] at directory
      cases directory
    · have refused := arrived.ends
      rw [ending?, route_too_long ends isMove up (by omega)] at refused
      cases refused

/-! ### Without links -/

theorem no_links (plain : ∀ entry ∈ tree.entries, entry.2.isLink = false) (place : Location) :
    tree.linkAt? place = none := by
  apply no_link_at
  intro target link
  have inner : place ≠ [] := inner_of_no_directory (by rw [link]; simp)
  have listed := plain _ (mem_of_entry_at inner link)
  simp [Entry.isLink] at listed

/-- Without links, names lead to where they say. -/
theorem route_names {location : Location} {names : List String} {links : Nat} {footing : Footing}
    (no_links : ∀ inner, location <+: inner → tree.linkAt? inner = none)
    (named : ∀ name ∈ names, Path.isMove name = true ∧ name ≠ "..")
    (led : (tree.route false links location names).ends = .ok footing) :
    footing.place = location ++ names := by
  induction names generalizing location with
  | nil =>
      rw [route_nil] at led
      rw [← Except.ok.inj led, List.append_nil]
  | cons name names induction =>
      rw [List.forall_mem_cons] at named
      rw [route_cons, Bool.false_and] at led
      by_cases short : name.utf8ByteSize ≤ nameLimit
      · rw [turn_down named.1.1 named.1.2 _ short (no_links _ (List.prefix_append _ _))] at led
        rw [List.append_cons]
        exact induction (fun inner below => no_links inner ((List.prefix_append _ _).trans below))
          named.2 led
      · rw [turn_too_long named.1.1 named.1.2 _ _ (by omega)] at led
        cases led

theorem ending_names {start base place : Location} {front names : List String}
    (no_links : ∀ inner, base <+: inner → tree.linkAt? inner = none)
    (named : ∀ name ∈ names, Path.isMove name = true ∧ name ≠ "..")
    (outer : tree.ending? start front = some base)
    (led : tree.ending? start (front ++ names) = some place) : place = base ++ names := by
  obtain ⟨footing, ends, rfl⟩ := ending_iff.mp outer
  obtain ⟨last, isEnd, rfl⟩ := ending_iff.mp led
  rw [finding_append, Route.onto, ends] at isEnd
  exact route_names no_links named isEnd

theorem stop_names {start place : Location} {moves : List String}
    (no_links : ∀ inner, start <+: inner → tree.linkAt? inner = none)
    (named : ∀ move ∈ moves, Path.isMove move = true ∧ move ≠ "..")
    (isStop : tree.stop? start moves = some place) : place = start ++ moves := by
  rw [stop?] at isStop
  split at isStop
  · cases isStop
  · rename_i last isLast
    split_ifs at isStop
    obtain ⟨around, ends, rfl⟩ := Option.map_eq_some_iff.mp isStop
    obtain ⟨front, rfl⟩ := List.getLast?_eq_some_iff.mp isLast
    rw [List.dropLast_concat, ← List.nil_append front] at ends
    have here : tree.ending? start [] = some start := by simp [ending?, Except.toOption]
    rw [ending_names no_links (fun move member => named move (List.mem_append_left _ member)) here
      ends, List.append_assoc]

theorem stops_within {start : Location} {moves : List String}
    (no_links : ∀ inner, start <+: inner → tree.linkAt? inner = none)
    (named : ∀ move ∈ moves, Path.isMove move = true ∧ move ≠ "..") :
    ∀ stop ∈ tree.stops start moves, stop <+: start ++ moves := by
  intro stop member
  obtain ⟨front, prefixed, isStop⟩ := mem_stops.mp member
  rw [stop_names no_links (fun move member => named move (prefixed.subset member)) isStop]
  exact (List.prefix_append_right_inj start).mpr prefixed

end Tree

end AccessWeave
