import AccessWeave.Host.Tree
import AccessWeave.Proofs.Text.Pieces

/-!
# What a path is made of

A path is where it starts, at the root, at a point or at the working directory, and the moves
that follow: the steps that are neither empty nor a point. Its components say the same, and a path
that is put together from components starts there and has these moves. What the path of a file
below a directory adds to the path of the directory is the names on the way.
-/

namespace AccessWeave

namespace Path

/-- Whether a step leads to another place than the one where it is taken. -/
def isMove (step : String) : Bool := step ≠ "" && step ≠ "."

theorem still_of_no_move {step : String} (still : ¬isMove step = true) :
    step = "" ∨ step = "." := by
  simp only [isMove] at still
  grind

def moves (path : Path) : List String := path.steps.filter isMove

/-- The component at which a path starts, none when it is relative and has no point in front. -/
def start (path : Path) : List Component :=
  if path.isAbsolute then [.root]
  else if path.steps.head? = some "." then [.current]
  else []

end Path

def Component.ofMove (move : String) : Component :=
  if move = ".." then .parent else .name move

namespace Path

/-- The path that starts where another does and makes the given moves. -/
def making (path : Path) (moves : List String) : Path :=
  .ofComponents (path.start ++ moves.map Component.ofMove)

/-- The moves that can be written as a step of a path. -/
def Written (moves : List String) : Prop :=
  ∀ move ∈ moves, isMove move = true ∧ '/' ∉ move.toList

theorem Written.front {moves last : List String} (written : Written (moves ++ last)) :
    Written moves :=
  fun move member => written move (List.mem_append_left last member)

/-! ### Components -/

theorem component_text_of_move (move : String) :
    componentText (.ofMove move) = move := by
  rw [Component.ofMove]
  by_cases up : move = ".."
  · rw [if_pos up, up]
    rfl
  · rw [if_neg up]
    rfl

theorem of_move_ne_root (move : String) : Component.ofMove move ≠ .root := by
  rw [Component.ofMove]
  split <;> simp

theorem components_eq (path : Path) :
    path.components = path.start ++ path.moves.map Component.ofMove := by
  have steps : path.steps.filterMap stepComponent? = path.moves.map Component.ofMove := by
    rw [moves]
    induction path.steps with
    | nil => rfl
    | cons step steps induction =>
        by_cases move : isMove step = true
        · have counted : ¬(step = "" ∨ step = ".") := by simpa [isMove] using move
          have component : stepComponent? step = some (Component.ofMove step) := by
            rw [stepComponent?, if_neg counted, Component.ofMove]
            split <;> rfl
          rw [List.filterMap_cons_some component, List.filter_cons_of_pos move, List.map_cons,
            induction]
        · have skipped := still_of_no_move move
          rw [List.filterMap_cons_none (by rw [stepComponent?, if_pos skipped]),
            List.filter_cons_of_neg move, induction]
  rw [components, steps, start]
  split
  · rfl
  · split <;> rfl

theorem parent_eq (path : Path) (moving : path.moves ≠ []) :
    path.parent? = some (path.making path.moves.dropLast) := by
  have components : path.components
      = path.start ++ path.moves.dropLast.map Component.ofMove
        ++ [Component.ofMove (path.moves.getLast moving)] := by
    rw [components_eq, List.append_assoc]
    congr 1
    rw [← List.map_singleton, ← List.map_append, List.dropLast_concat_getLast moving]
  rw [parent?, components, List.getLast?_concat, List.dropLast_concat, making]
  cases component : Component.ofMove (path.moves.getLast moving) with
  | root => exact absurd component (of_move_ne_root _)
  | current => rfl
  | parent => rfl
  | name text => rfl

/-- The move that a component stands for, none for where a path starts. -/
def moveOf : Component → Option String
  | .root => none
  | .current => none
  | .parent => some ".."
  | .name text => some text

theorem moves_of_components (path : Path) : path.components.filterMap moveOf = path.moves := by
  have no_start : path.start.filterMap moveOf = [] := by
    rw [start]
    split
    · rfl
    · split <;> rfl
  have back : moveOf ∘ Component.ofMove = some := by
    funext move
    rw [Function.comp, Component.ofMove]
    split
    · rename_i up
      rw [up]
      rfl
    · rfl
  rw [components_eq, List.filterMap_append, no_start, List.filterMap_map, back,
    List.filterMap_some, List.nil_append]

theorem is_absolute_iff_root (path : Path) :
    path.isAbsolute = true ↔ path.components.head? = some .root := by
  rw [components]
  split
  · rename_i absolute
    simp [absolute]
  · rename_i relative
    have no_root : ∀ steps : List String, (steps.filterMap stepComponent?).head? ≠ some .root := by
      intro steps
      induction steps with
      | nil => simp
      | cons step steps induction =>
          rw [List.filterMap_cons]
          cases component : stepComponent? step with
          | none => exact induction
          | some found =>
              rw [stepComponent?] at component
              intro root
              rw [List.head?_cons, Option.some.injEq] at root
              rw [root] at component
              split at component
              · exact absurd component (by simp)
              · split at component <;> exact absurd component (by simp)
    split
    · simp [relative]
    · exact iff_of_false relative (no_root path.steps)

/-! ### Steps -/

theorem steps_of_texts (texts : List String) (some_text : texts ≠ [])
    (whole : ∀ text ∈ texts, '/' ∉ text.toList) :
    (Path.mk (String.intercalate "/" texts)).steps = texts := by
  have cut : Text.pieces '/' (['/'].intercalate (texts.map String.toList))
      = texts.map String.toList :=
    Text.pieces_join (by simpa using whole) (by simpa using some_text)
  rw [steps, String.toList_intercalate, show "/".toList = ['/'] from rfl, cut, List.map_map]
  simp

theorem steps_of_slash (front back : String) :
    (Path.mk (front ++ "/" ++ back)).steps = (Path.mk front).steps ++ (Path.mk back).steps := by
  simp only [steps, Text.pieces_eq_split_on, String.toList_append]
  rw [show "/".toList = ['/'] from rfl, List.append_assoc, List.singleton_append,
    List.splitOn_append_cons_self, List.map_append]

theorem written_moves (path : Path) : Written path.moves := by
  intro move member
  obtain ⟨step, counted⟩ := List.mem_filter.mp member
  have whole : ∀ characters : List Char, ∀ piece ∈ Text.pieces '/' characters, '/' ∉ piece := by
    intro characters
    induction characters with
    | nil => simp [Text.pieces]
    | cons character rest induction =>
        rw [Text.pieces]
        split
        · simpa using induction
        · rename_i other
          cases pieces : Text.pieces '/' rest with
          | nil => simpa using Ne.symm other
          | cons piece others =>
              rw [pieces] at induction
              simp only [List.mem_cons, forall_eq_or_imp] at induction ⊢
              exact ⟨by simpa [induction.1] using Ne.symm other, induction.2⟩
  obtain ⟨piece, isPiece, text⟩ := List.mem_map.mp step
  refine ⟨counted, ?_⟩
  rw [← text, String.toList_ofList]
  exact whole _ piece isPiece

/-! ### Paths put together from moves -/

theorem start_cases (path : Path) :
    path.start = [] ∨ path.start = [.root] ∨ path.start = [.current] := by
  rw [start]
  split
  · exact .inr (.inl rfl)
  · split
    · exact .inr (.inr rfl)
    · exact .inl rfl

theorem is_absolute_iff (path : Path) :
    path.isAbsolute = true ↔ path.steps.head? = some "" ∧ path.steps ≠ [""] := by
  rw [isAbsolute, steps, Text.pieces_eq_split_on]
  cases path.text.toList with
  | nil => simp
  | cons character rest =>
      rw [List.splitOn_cons_eq_if_modifyHead]
      cases pieces : rest.splitOn '/' with
      | nil => exact absurd pieces (List.splitOn_ne_nil '/' rest)
      | cons piece others =>
          by_cases slash : character = '/'
          · simp [slash]
          · simp [slash]

theorem making_text (path : Path) (moves : List String) (moving : moves ≠ []) :
    (path.making moves).text
      = String.intercalate "/" (path.start.map componentText ++ moves) := by
  have texts : (path.start ++ moves.map Component.ofMove).map componentText
      = path.start.map componentText ++ moves := by
    rw [List.map_append, List.map_map]
    congr 1
    exact (List.map_congr_left fun move _ => component_text_of_move move).trans (List.map_id _)
  have more : path.start ++ moves.map Component.ofMove ≠ [.root] := by
    obtain ⟨move, others, rfl⟩ := List.exists_cons_of_ne_nil moving
    obtain none | root | current := path.start_cases
    · simp [none, of_move_ne_root]
    · simp [root]
    · simp [current]
  rw [making, ofComponents, texts]
  exact more

theorem making_steps (path : Path) {moves : List String} (written : Written moves)
    (moving : moves ≠ []) :
    (path.making moves).steps = path.start.map componentText ++ moves := by
  have text := path.making_text moves moving
  have whole : ∀ step ∈ path.start.map componentText ++ moves, '/' ∉ step.toList := by
    intro step member
    rcases List.mem_append.mp member with lead | move
    · obtain none | root | current := path.start_cases
      · simp [none] at lead
      · simp [root, componentText] at lead
        simp [lead]
      · simp [current, componentText] at lead
        simp [lead]
    · exact (written step move).2
  have same : path.making moves
      = ⟨String.intercalate "/" (path.start.map componentText ++ moves)⟩ := by
    rw [← text]
  rw [same, steps_of_texts _ (by simp [moving]) whole]

/-- A path without moves is the empty one, the root or a point. -/
theorem making_none (path : Path) :
    path.making [] = ⟨""⟩ ∧ path.start = [] ∨ path.making [] = ⟨"/"⟩ ∧ path.start = [.root]
      ∨ path.making [] = ⟨"."⟩ ∧ path.start = [.current] := by
  obtain none | root | current := path.start_cases
  · exact .inl ⟨by rw [making, none]; rfl, none⟩
  · exact .inr (.inl ⟨by rw [making, root]; rfl, root⟩)
  · exact .inr (.inr ⟨by rw [making, current]; rfl, current⟩)

theorem making_moves (path : Path) {moves : List String} (written : Written moves) :
    (path.making moves).moves = moves := by
  by_cases moving : moves = []
  · subst moving
    obtain ⟨text, -⟩ | ⟨text, -⟩ | ⟨text, -⟩ := path.making_none <;> rw [text] <;> decide
  · rw [Path.moves, path.making_steps written moving, List.filter_append,
      List.filter_eq_self.mpr fun move member => (written move member).1]
    obtain none | root | current := path.start_cases
    · rw [none]
      rfl
    · rw [root]
      rfl
    · rw [current]
      rfl

theorem making_start (path : Path) {moves : List String} (written : Written moves) :
    (path.making moves).start = path.start := by
  by_cases moving : moves = []
  · subst moving
    obtain ⟨text, start⟩ | ⟨text, start⟩ | ⟨text, start⟩ := path.making_none <;>
      rw [text, start] <;> decide
  · obtain ⟨move, others, rfl⟩ := List.exists_cons_of_ne_nil moving
    have steps := path.making_steps written moving
    have counted : move ≠ "" ∧ move ≠ "." := by
      simpa [isMove] using (written move List.mem_cons_self).1
    have absolute := (path.making (move :: others)).is_absolute_iff
    rw [start]
    obtain none | root | current := path.start_cases
    · simp [none] at steps
      simp [absolute, steps, none, counted]
    · simp [root, componentText] at steps
      simp [absolute, steps, root]
    · simp [current, componentText] at steps
      simp [absolute, steps, current]

theorem is_absolute_iff_start (path : Path) :
    path.isAbsolute = true ↔ path.start = [.root] := by
  rw [start]
  split
  · rename_i absolute
    simp [absolute]
  · rename_i relative
    split <;> simp [relative]

theorem making_is_absolute (path : Path) {moves : List String} (written : Written moves) :
    (path.making moves).isAbsolute = path.isAbsolute := by
  rw [Bool.eq_iff_iff, is_absolute_iff_start, is_absolute_iff_start, path.making_start written]

theorem making_components (path : Path) {moves : List String} (written : Written moves) :
    (path.making moves).components = path.start ++ moves.map Component.ofMove := by
  rw [components_eq, path.making_start written, path.making_moves written]

theorem making_grows (path : Path) (moves : List String) (move : String) :
    (path.making moves).text.utf8ByteSize
      ≤ (path.making (moves ++ [move])).text.utf8ByteSize := by
  by_cases moving : moves = []
  · subst moving
    rw [path.making_text ([] ++ [move]) (by simp)]
    obtain ⟨text, start⟩ | ⟨text, start⟩ | ⟨text, start⟩ := path.making_none
    · simp [text]
    · have size : "/".utf8ByteSize = 1 := by decide
      simp [text, start, componentText, String.intercalate_cons_cons, size]
    · have size : "./".utf8ByteSize = 2 := by decide
      have point : ".".utf8ByteSize = 1 := by decide
      simp [text, start, componentText, String.intercalate_cons_cons, size, point]
      omega
  · have longer : String.intercalate "/" (path.start.map componentText ++ moves ++ [move])
        = String.intercalate "/" (path.start.map componentText ++ moves) ++ "/"
          ++ String.intercalate "/" [move] :=
      String.intercalate_append_of_ne_nil (by simp [moving]) (by simp)
    rw [path.making_text moves moving, path.making_text (moves ++ [move]) (by simp),
      ← List.append_assoc, longer]
    simp only [String.utf8ByteSize_append]
    omega

/-! ### Files below a directory -/

variable {names : List String}

theorem inside_steps (directory : Path) (written : Written names) (below : names ≠ []) :
    ∃ front, (directory.inside (String.intercalate "/" names)).steps = front ++ names
      ∧ front.filter isMove = directory.moves := by
  have relative := steps_of_texts names below fun name member => (written name member).2
  rw [inside]
  by_cases empty : directory.text = ""
  · refine ⟨[], ?_, ?_⟩
    · rw [if_pos (.inl empty), empty, String.empty_append, List.nil_append, relative]
    · rw [moves, steps, empty]
      decide
  · by_cases slash : directory.text.toList.getLast? = some '/'
    · obtain ⟨front, characters⟩ := List.getLast?_eq_some_iff.mp slash
      have text : directory.text = String.ofList front ++ "/" ++ "" := by
        rw [← String.toList_inj, characters]
        simp
      have steps : directory.steps = (Path.mk (String.ofList front)).steps ++ [""] := by
        rw [show directory = ⟨directory.text⟩ from rfl, text, steps_of_slash]
        rfl
      refine ⟨(Path.mk (String.ofList front)).steps, ?_, ?_⟩
      · rw [if_pos (.inr slash), text, String.append_empty, steps_of_slash, relative]
      · rw [moves, steps, List.filter_append]
        simp [isMove]
    · refine ⟨directory.steps, ?_, rfl⟩
      rw [if_neg (by simp [empty, slash]), steps_of_slash, relative]

theorem inside_moves (directory : Path) (written : Written names) (below : names ≠ []) :
    (directory.inside (String.intercalate "/" names)).moves = directory.moves ++ names := by
  obtain ⟨front, steps, moves⟩ := directory.inside_steps written below
  rw [Path.moves, steps, List.filter_append, moves,
    List.filter_eq_self.mpr fun name member => (written name member).1]

/-- Names are taken one after the other. -/
theorem inside_inside (directory : Path) {name : String} (counted : name ≠ "")
    (whole : '/' ∉ name.toList) (relative : String) :
    (directory.inside name).inside relative = directory.inside (name ++ "/" ++ relative) := by
  have characters : name.toList ≠ [] := by simpa using counted
  have ends : ∀ front : String,
      ¬(front ++ name = "" ∨ (front ++ name).toList.getLast? = some '/') := by
    rintro front (empty | slash)
    · exact counted (String.append_eq_empty_iff.mp empty).2
    · rw [String.toList_append, List.getLast?_append, List.getLast?_eq_some_getLast characters,
        Option.some_or, ← List.getLast?_eq_some_getLast characters] at slash
      exact whole (List.mem_of_getLast? slash)
  have inner : ∀ front : String,
      (Path.mk (front ++ name)).inside relative = ⟨front ++ (name ++ "/" ++ relative)⟩ := by
    intro front
    rw [inside, if_neg (ends front)]
    simp only [String.append_assoc]
  rw [inside.eq_1 directory, inside.eq_1 directory]
  split
  · exact inner _
  · exact inner _

theorem inside_grows (directory : Path) {name : String} (counted : name ≠ "") :
    directory.text.utf8ByteSize < (directory.inside name).text.utf8ByteSize := by
  have more : 0 < name.utf8ByteSize := by
    rw [Nat.pos_iff_ne_zero, ne_eq, String.utf8ByteSize_eq_zero_iff]
    exact counted
  rw [inside]
  split <;> simp only [String.utf8ByteSize_append] <;> omega

theorem inside_is_absolute (directory : Path) (written : Written names) (below : names ≠ []) :
    (directory.inside (String.intercalate "/" names)).isAbsolute = directory.isAbsolute := by
  obtain ⟨name, others, rfl⟩ := List.exists_cons_of_ne_nil below
  by_cases empty : directory.text = ""
  · have relative := steps_of_texts (name :: others) below
      fun name member => (written name member).2
    have counted : name ≠ "" := by
      have move := (written name List.mem_cons_self).1
      simp [isMove] at move
      exact move.1
    have front : directory.isAbsolute = false := by
      rw [isAbsolute, empty]
      rfl
    rw [front, Bool.eq_false_iff, ne_eq, is_absolute_iff, inside, if_pos (.inl empty), empty,
      String.empty_append, relative]
    simp [counted]
  · have begun : ∀ text : String,
        (directory.text ++ text).toList.head? = directory.text.toList.head? := by
      intro text
      cases characters : directory.text.toList with
      | nil => exact absurd (by rw [← String.toList_inj, characters]; rfl) empty
      | cons character rest => simp [characters]
    rw [isAbsolute, isAbsolute, inside]
    split
    · rw [begun]
    · rw [String.append_assoc, begun]

end Path

end AccessWeave
