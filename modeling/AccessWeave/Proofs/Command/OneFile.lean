import AccessWeave.Command.Batch
import AccessWeave.Proofs.Host.Filling
import AccessWeave.Proofs.Host.MakingDirectories

/-!
# Weaving one file

What weaving one file does to a tree: it makes directories on the way to its output and fills the
place that its output leads to, and nothing else. In a tree in which other places have been filled
since, none of them read, filled or asked for by the job, it comes to the same result and does the
same. What it puts in its output is told by the bytes of its input.
-/

namespace AccessWeave

/-- What became of a file, without the text of a failure. -/
def FileResult.withoutText : FileResult → FileResult
  | failed _ => failed (.plain "")
  | result => result

def FileOutcome.withoutText (outcome : FileOutcome) : FileOutcome :=
  { outcome with result := outcome.result.withoutText }

namespace Tree

variable {tree : Tree} {path : Path}

/-- When there is a directory for the output, what is asked for on the way and is not there lies
behind a link or is the output itself. -/
theorem free_on_output {around place : Location} (grounded : tree.Grounded)
    (arrives : tree.Arrives (tree.origin path) path.moves.dropLast around)
    (asked : place ∈ tree.standing (tree.origin path) path.moves)
    (free : tree.entryAt? place = none) :
    place ∈ tree.behindLinks (tree.origin path) path.moves
      ∨ tree.destination? path = some place := by
  cases moves : path.moves using List.reverseRecOn with
  | nil =>
      have there := (Arrives.none (grounded.origin_standing path)).directories place
      rw [moves] at asked
      rw [there asked] at free
      cases free
  | append_singleton front last =>
      rw [moves, List.dropLast_concat] at arrives
      rw [moves] at asked
      have isMove := (path.written_moves last (by simp [moves])).1
      rcases free_on_way isMove (grounded.origin_rooted path) arrives asked free with
        link | ⟨-, -, -, ends⟩
      · exact .inl (mem_behind_links.mpr ⟨_, List.prefix_rfl, link, asked⟩)
      · right
        rw [destination?, moves, ends]

theorem read_ok {bytes : List UInt8} (reading : tree.read path = .ok bytes) :
    ∃ place entry, tree.locate path = .ok place ∧ tree.entryAt? place = some entry
      ∧ entry.bytes? = some bytes := by
  rw [read] at reading
  split at reading
  · cases reading
  · cases reading
  · rename_i entry _ found
    obtain ⟨place, located, isEntry⟩ := lookup_ok_iff.mp found
    refine ⟨place, entry, located, isEntry, ?_⟩
    split at reading
    · cases reading
    · rename_i content holds
      rw [holds, Except.ok.inj reading]

/-- A place that a path leads to is asked for when a directory is to be there. -/
theorem destination_standing {place : Location} (led : tree.destination? path = some place) :
    place ∈ tree.standing (tree.origin path) path.moves := by
  obtain ⟨footing, ends, rfl⟩ := ending_iff.mp led
  rw [standing, point_route, Route.onto, ends]
  exact List.mem_append_right _ (List.mem_singleton.mpr rfl)

theorem destination_of_same {left right : Path} (same : left.sameAs right = true) (tree : Tree) :
    tree.destination? left = tree.destination? right := by
  have components : left.components = right.components := by simpa [Path.sameAs] using same
  have absolute : left.isAbsolute = right.isAbsolute := by
    rw [Bool.eq_iff_iff, Path.is_absolute_iff_root, Path.is_absolute_iff_root, components]
  rw [destination?, destination?, origin, origin, startOf, startOf, absolute,
    ← Path.moves_of_components, ← Path.moves_of_components, components]

end Tree

namespace WeaveJob

/-- The names around the output, there or not. -/
def passed (job : WeaveJob) (tree : Tree) : List Location := tree.passed job.output

/-- The places that are asked for on the way to the input, and on the way to the output because of
links. -/
def asked (job : WeaveJob) (tree : Tree) : List Location :=
  tree.standing (tree.origin job.input) job.input.moves
    ++ tree.behindLinks (tree.origin job.output) job.output.moves

/-- The place that the job can fill: the one that its output leads to, unless a directory is there.
Where nothing is, nothing is filled that is to be read first. -/
def fills (job : WeaveJob) (tree : Tree) : Option Location :=
  (tree.destination? job.output).filter fun place =>
    tree.entryAt? place ≠ some .directory
      ∧ (tree.entryAt? place = none → tree.destination? job.input ≠ some place)

/-- What has been done to a tree is not in the way of a job. -/
structure Undisturbed (job : WeaveJob) (tree later : Tree) : Prop where
  grown : Tree.Grown tree later
  passed : ∀ place ∈ job.passed tree, tree.entryAt? place = none →
    later.entryAt? place = none ∨ Tree.Made tree later place
  asked : ∀ place ∈ job.asked tree, tree.entryAt? place = none → later.entryAt? place = none
  input : ∀ place, tree.destination? job.input = some place →
    later.entryAt? place = tree.entryAt? place
  output : ∀ place, tree.destination? job.output = some place →
    later.entryAt? place = tree.entryAt? place

/-- All that a job can do to a tree. -/
structure Footprint (job : WeaveJob) (tree after : Tree) : Prop where
  current : after.current = tree.current
  turned : ∀ location, after.entryAt? location = tree.entryAt? location
    ∨ location ∈ job.passed tree ∧ Tree.Made tree after location
    ∨ job.fills tree = some location ∧ Tree.Filled tree after location

variable {job : WeaveJob} {tree later : Tree} {transformer : Transformer} {bytes : List UInt8}

theorem fills_iff {place : Location} :
    job.fills tree = some place ↔ tree.destination? job.output = some place
      ∧ tree.entryAt? place ≠ some .directory
      ∧ (tree.entryAt? place = none → tree.destination? job.input ≠ some place) := by
  rw [fills, Option.filter_eq_some_iff, decide_eq_true_iff]

/-! ### What can be woven -/

theorem not_decoded (codec : Codec) :
    (codec.decode []).toBool = false ∧ (codec.decode programBytes).toBool = false := by
  cases codec <;> decide +kernel

/-- What is transformed is a file: programs and devices hold no class. -/
theorem file_of_transformed {result : Report × Option (List UInt8)}
    (reading : tree.read job.input = .ok bytes)
    (transformed : transformer.transform bytes = .ok result) :
    bytes ≠ [] ∧ ∃ place, tree.locate job.input = .ok place
      ∧ tree.destination? job.input = some place
      ∧ tree.entryAt? place = some (.file bytes) := by
  have decoded : (transformer.codec.decode bytes).toBool = true := by
    rw [Transformer.transform] at transformed
    cases decoding : transformer.codec.decode bytes with
    | error error => simp [decoding] at transformed
    | ok file => rfl
  have counted : bytes ≠ [] := by
    rintro rfl
    rw [(not_decoded transformer.codec).1] at decoded
    cases decoded
  have no_program : bytes ≠ programBytes := by
    rintro rfl
    rw [(not_decoded transformer.codec).2] at decoded
    cases decoded
  obtain ⟨place, entry, located, isEntry, holds⟩ := Tree.read_ok reading
  refine ⟨counted, place, located, (Tree.located located).1, ?_⟩
  cases entry with
  | file content =>
      rw [isEntry, Option.some.inj holds]
  | program name => exact absurd (Option.some.inj holds).symm no_program
  | device | output => exact absurd (Option.some.inj holds).symm counted
  | directory | link => cases holds

/-! ### Making the directories -/

/-- The result of a job's preparation, from that of making the directories. -/
def prepared : Option SystemFault × Tree → Except Failure Unit × Tree
  | (none, made) => (.ok (), made)
  | (some fault, made) => (.error (.plain fault.message), made)

/-- Preparing makes the directories around the output. Where the output makes no move, they are
there. -/
theorem prepare_eq (job : WeaveJob) (grounded : tree.Grounded) :
    job.prepare tree
      = prepared (tree.makeDirectories (job.output.making job.output.moves.dropLast)) := by
  by_cases moving : job.output.moves = []
  · have nothing : tree.makeDirectories (job.output.making job.output.moves.dropLast)
        = (none, tree) := by
      have fits : (job.output.making []).text.utf8ByteSize ≤ Tree.pathLimit := by
        obtain ⟨text, -⟩ | ⟨text, -⟩ | ⟨text, -⟩ := job.output.making_none <;> rw [text] <;> decide
      rw [Tree.make_directories_eq, moving, List.dropLast_nil, Tree.makeAlong, List.map_nil,
        List.append_nil, tree.make_nested_start (grounded.origin_standing job.output) fits]
    have components := job.output.components_eq
    rw [moving, List.map_nil, List.append_nil] at components
    rw [nothing, prepare, Path.parent?, components]
    obtain none | root | current := job.output.start_cases
    · rw [none]
      rfl
    · rw [root]
      rfl
    · rw [current]
      rfl
  · rw [prepare, job.output.parent_eq moving]
    dsimp only
    rcases tree.makeDirectories (job.output.making job.output.moves.dropLast) with ⟨_ | _, made⟩ <;>
      rfl

theorem prepared_tree (result : Option SystemFault × Tree) : (prepared result).2 = result.2 := by
  rcases result with ⟨_ | _, made⟩ <;> rfl

theorem prepared_ok (result : Option SystemFault × Tree) :
    (prepared result).1.toBool = result.1.isNone := by
  rcases result with ⟨_ | _, made⟩ <;> rfl

theorem prepare_made (job : WeaveJob) (grounded : tree.Grounded) :
    Tree.MadeAlong tree (tree.origin job.output) job.output.moves.dropLast
      (tree.makeDirectories (job.output.making job.output.moves.dropLast)) :=
  tree.make_around job.output (grounded.origin_standing job.output)

theorem prepare_footprint (job : WeaveJob) (grounded : tree.Grounded) :
    job.Footprint tree (job.prepare tree).2 := by
  have made := prepare_made job grounded
  rw [prepare_eq job grounded, prepared_tree]
  exact ⟨made.current, fun location => (made.turned location).imp_right .inl⟩

theorem prepare_grown (job : WeaveJob) (grounded : tree.Grounded) :
    Tree.Grown tree (job.prepare tree).2 := by
  rw [prepare_eq job grounded, prepared_tree]
  exact (prepare_made job grounded).grown

theorem prepare_turned (job : WeaveJob) (grounded : tree.Grounded) (location : Location) :
    (job.prepare tree).2.entryAt? location = tree.entryAt? location
      ∨ Tree.Made tree (job.prepare tree).2 location := by
  rw [prepare_eq job grounded, prepared_tree]
  exact ((prepare_made job grounded).turned location).imp_right And.right

/-- Preparing changes no entry that is there. -/
theorem prepare_keeps (job : WeaveJob) (grounded : tree.Grounded) {location : Location}
    {entry : Entry} (there : tree.entryAt? location = some entry) :
    (job.prepare tree).2.entryAt? location = some entry := by
  rcases prepare_turned job grounded location with same | made
  · rw [same, there]
  · rw [made.free] at there
    cases there

theorem prepare_arrives (job : WeaveJob) (grounded : tree.Grounded)
    (ready : (job.prepare tree).1.toBool = true) :
    ∃ around, (job.prepare tree).2.Arrives ((job.prepare tree).2.origin job.output)
      job.output.moves.dropLast around := by
  have made := prepare_made job grounded
  rw [(prepare_grown job grounded).origin]
  rw [prepare_eq job grounded] at ready ⊢
  rw [prepared_ok, Option.isNone_iff_eq_none] at ready
  rw [prepared_tree]
  exact made.arrived ready

theorem prepare_alike (job : WeaveJob) (grounded : tree.Grounded)
    (undisturbed : job.Undisturbed tree later) :
    (job.prepare tree).1.toBool = (job.prepare later).1.toBool
      ∧ Tree.Alike tree later (job.prepare tree).2 (job.prepare later).2 := by
  have groundedLater := undisturbed.grown.grounded grounded
  have behind : ∀ place ∈ tree.behindLinks (tree.origin job.output) job.output.moves.dropLast,
      tree.entryAt? place = none → later.entryAt? place = none := by
    intro place member
    exact undisturbed.asked place (List.mem_append_right _
      (Tree.behind_links_front member (List.dropLast_prefix _)))
  rw [prepare_eq job grounded, prepare_eq job groundedLater, prepared_tree, prepared_tree,
    prepared_ok, prepared_ok]
  exact Tree.make_around_alike undisturbed.grown (grounded.origin_rooted job.output)
    (grounded.origin_standing job.output) undisturbed.passed behind

/-! ### Filling the output -/

/-- The bytes that an input still has once the output is empty. -/
def copied (job : WeaveJob) (tree : Tree) (bytes : List UInt8) : List UInt8 :=
  if tree.destination? job.output = tree.destination? job.input then [] else bytes

section

variable {place : Location} (grounded : tree.Grounded)
  (located : tree.locate job.input = .ok place)
  (file : tree.entryAt? place = some (.file bytes))

include grounded located file

/-- An output is written to, also when it is to hold what its input holds. -/
theorem store_eq (woven : Option (List UInt8)) :
    job.store tree woven
      = (tree.write job.output (woven.getD (job.copied tree bytes))).mapError fun fault =>
          (Failure.plain fault.message).within
            ((if woven.isSome then "writing " else "copying to ") ++ job.output.text) := by
  cases woven with
  | some content =>
      rw [store, Option.getD_some]
      cases tree.write job.output content <;> rfl
  | none =>
      rw [store, Tree.copy_eq (grounded.origin_rooted job.output) located file,
        ← (Tree.located located).1, ← copied, Option.getD_none]
      cases tree.write job.output (job.copied tree bytes) <;> rfl

/-- What has been stored fills the place that the output leads to, which was no directory. -/
theorem store_filled {stored : Tree} {woven : Option (List UInt8)}
    (storing : job.store tree woven = .ok stored) :
    ∃ target, tree.destination? job.output = some target
      ∧ tree.entryAt? target ≠ some .directory ∧ Tree.FilledAt tree stored target
      ∧ stored.entryAt? target
        = some (Entry.taking (woven.getD (job.copied tree bytes)) (tree.entryAt? target)) := by
  rw [store_eq grounded located file] at storing
  cases wrote : tree.write job.output (woven.getD (job.copied tree bytes)) with
  | error fault => simp [wrote, Except.mapError] at storing
  | ok written =>
      obtain rfl : written = stored := by simpa [wrote, Except.mapError] using storing
      exact Tree.write_filled (grounded.origin_rooted job.output) wrote

/-- Storing comes to the same in a tree that differs neither at the input nor at the output, nor
behind links on the way. -/
theorem store_alike {around : Location} (grown : Tree.Grown tree later)
    (arrives : tree.Arrives (tree.origin job.output) job.output.moves.dropLast around)
    (asked : ∀ place ∈ job.asked tree, tree.entryAt? place = none → later.entryAt? place = none)
    (input : later.entryAt? place = tree.entryAt? place)
    (output : ∀ target, tree.destination? job.output = some target →
      later.entryAt? target = tree.entryAt? target) (woven : Option (List UInt8)) :
    (∃ failure, job.store tree woven = .error failure ∧ job.store later woven = .error failure)
      ∨ ∃ stored storedLater, job.store tree woven = .ok stored
        ∧ job.store later woven = .ok storedLater
        ∧ Tree.Alike tree later stored storedLater := by
  have free : ∀ other ∈ tree.standing (tree.origin job.output) job.output.moves,
      tree.entryAt? other = none → later.entryAt? other = none := by
    intro other member nothing
    rcases Tree.free_on_output grounded arrives member nothing with behind | led
    · exact asked other (List.mem_append_right _ behind) nothing
    · rw [output other led, nothing]
  have same_bytes : job.copied later bytes = job.copied tree bytes := by
    rw [copied, copied, grown.destination, grown.destination]
  rw [store_eq grounded located file, store_eq (grown.grounded grounded) (grown.located located)
    (input.trans file), same_bytes]
  rcases Tree.write_alike grown free output (woven.getD (job.copied tree bytes)) with
    ⟨fault, failed, failedLater⟩ | ⟨_, _, wrote, wroteLater, alike⟩
  · rw [failed, failedLater]
    exact .inl ⟨_, rfl, rfl⟩
  · rw [wrote, wroteLater]
    exact .inr ⟨_, _, rfl, rfl, alike⟩

end

/-! ### The whole job -/

theorem Footprint.none (job : WeaveJob) (tree : Tree) : job.Footprint tree tree :=
  ⟨rfl, fun _ => .inl rfl⟩

theorem finish_footprint {place : Location} (grounded : tree.Grounded)
    (located : tree.locate job.input = .ok place) (file : tree.entryAt? place = some (.file bytes))
    (report : Report) (woven : Option (List UInt8)) :
    job.Footprint tree (job.finish tree report woven).2 := by
  have footprint := prepare_footprint job grounded
  have grown := prepare_grown job grounded
  have fileThere := prepare_keeps job grounded file
  rw [finish]
  split
  · exact .none job tree
  · revert footprint grown fileThere
    rcases job.prepare tree with ⟨_ | _, made⟩
    · exact fun footprint _ _ => footprint
    · intro footprint grown fileThere
      dsimp only at footprint grown fileThere ⊢
      cases storing : job.store made woven with
      | error failure => exact footprint
      | ok stored =>
          obtain ⟨target, led, writable, change, -⟩ :=
            store_filled (grown.grounded grounded) (grown.located located) fileThere storing
          rw [grown.destination] at led
          -- What has been read is there, so the target is not one that is read and is free.
          have isFilled : job.fills tree = some target := by
            refine fills_iff.mpr ⟨led, fun directory => writable (grown.directory directory), ?_⟩
            intro free input
            rw [(Tree.located located).1] at input
            rw [← Option.some.inj input, file] at free
            cases free
          refine ⟨change.current.trans footprint.current, ?_⟩
          intro location
          by_cases here : location = target
          · rw [here]
            refine .inr (.inr ⟨isFilled, ?_, change.here.after⟩)
            intro entry found
            rcases grown.turned target with same | made | filled
            · exact change.here.before entry (same.trans found)
            · exact absurd made.made writable
            · exact filled.before entry found
          · rw [change.elsewhere location here]
            rcases footprint.turned location with same | ⟨passed, made⟩ | ⟨fills, -⟩
            · exact .inl same
            · exact .inr (.inl ⟨passed, made.free, made.allowed, by
                rw [change.elsewhere location here, made.made]⟩)
            · rw [isFilled] at fills
              exact absurd (Option.some.inj fills).symm here

theorem finish_alike {place : Location} (grounded : tree.Grounded)
    (undisturbed : job.Undisturbed tree later) (located : tree.locate job.input = .ok place)
    (file : tree.entryAt? place = some (.file bytes)) (report : Report)
    (woven : Option (List UInt8)) :
    (job.finish later report woven).1.withoutText = (job.finish tree report woven).1.withoutText
      ∧ Tree.Alike tree later (job.finish tree report woven).2
        (job.finish later report woven).2 := by
  obtain ⟨arrived, alike⟩ := prepare_alike job grounded undisturbed
  have grown := prepare_grown job grounded
  have fileThere := prepare_keeps job grounded file
  have arrives := prepare_arrives job grounded
  rw [finish, finish]
  split
  · exact ⟨rfl, .refl tree later⟩
  · revert arrived alike grown fileThere arrives
    rcases job.prepare tree with ⟨failure | done, made⟩ <;>
      rcases job.prepare later with ⟨failureLater | doneLater, madeLater⟩ <;>
      intro arrived alike grown fileThere arrives
    · exact ⟨rfl, alike⟩
    · exact absurd arrived (by simp [Except.toBool])
    · exact absurd arrived (by simp [Except.toBool])
    · obtain ⟨around, arrives⟩ := arrives rfl
      dsimp only at alike grown fileThere arrives ⊢
      have asked : ∀ other ∈ job.asked made,
          made.entryAt? other = none → madeLater.entryAt? other = none := by
        intro other member free
        rw [WeaveJob.asked, grown.origin, grown.origin, grown.standing,
          grown.behind_links] at member
        exact alike.free grown (undisturbed.asked other member) free
      have input : madeLater.entryAt? place = made.entryAt? place :=
        alike.same (undisturbed.input place (Tree.located located).1)
      have output : ∀ target, made.destination? job.output = some target →
          madeLater.entryAt? target = made.entryAt? target := by
        intro target led
        rw [grown.destination] at led
        exact alike.same (undisturbed.output target led)
      rcases store_alike (grown.grounded grounded) (grown.located located) fileThere
        (alike.grown undisturbed.grown) arrives asked input output woven with
        ⟨failure, failed, failedLater⟩ | ⟨stored, storedLater, filled, filledLater, change⟩
      · rw [failed, failedLater]
        exact ⟨rfl, alike⟩
      · rw [filled, filledLater]
        exact ⟨rfl, alike.trans change⟩

theorem run_footprint (transformer : Transformer) (job : WeaveJob) (grounded : tree.Grounded) :
    job.Footprint tree (job.run transformer tree).2 := by
  rw [run]
  cases reading : tree.read job.input with
  | error fault => exact .none job tree
  | ok bytes =>
      dsimp only
      cases transformed : transformer.transform bytes with
      | error error => exact .none job tree
      | ok result =>
          obtain ⟨-, place, located, -, file⟩ := file_of_transformed reading transformed
          exact finish_footprint grounded located file result.1 result.2

theorem read_alike (undisturbed : job.Undisturbed tree later) :
    later.read job.input = tree.read job.input := by
  have followed : later.locate job.input = tree.locate job.input :=
    undisturbed.grown.locate_steps false fun place member =>
      undisturbed.asked place (List.mem_append_left _ member)
  rw [Tree.read, Tree.read, Tree.lookup, Tree.lookup, followed]
  cases found : tree.locate job.input with
  | error fault => rfl
  | ok place => simp only [undisturbed.input place (Tree.located found).1]

theorem run_alike (transformer : Transformer) (grounded : tree.Grounded)
    (undisturbed : job.Undisturbed tree later) :
    (job.run transformer later).1.withoutText = (job.run transformer tree).1.withoutText
      ∧ Tree.Alike tree later (job.run transformer tree).2 (job.run transformer later).2 := by
  rw [run, run, read_alike undisturbed]
  cases reading : tree.read job.input with
  | error fault => exact ⟨rfl, .refl tree later⟩
  | ok bytes =>
      dsimp only
      cases transformed : transformer.transform bytes with
      | error error => exact ⟨rfl, .refl tree later⟩
      | ok result =>
          obtain ⟨-, place, located, -, file⟩ := file_of_transformed reading transformed
          obtain ⟨same, alike⟩ :=
            finish_alike grounded undisturbed located file result.1 result.2
          refine ⟨?_, alike⟩
          simp only [FileOutcome.withoutText]
          rw [same]

/-- In a tree in which nothing that a job has to do with has changed, a job changes what it
changes alone, and leaves the rest as it is. -/
theorem run_undisturbed (transformer : Transformer) (grounded : tree.Grounded)
    (undisturbed : job.Undisturbed tree later) (location : Location) :
    (job.run transformer later).2.entryAt? location
      = if (job.run transformer tree).2.entryAt? location = tree.entryAt? location then
          later.entryAt? location
        else (job.run transformer tree).2.entryAt? location := by
  have grown := undisturbed.grown
  have footprint := run_footprint transformer job (grown.grounded grounded)
  rcases (run_alike transformer grounded undisturbed).2.entries location with
    same | ⟨left, leftLater⟩
  · rw [same]
    split
    · rename_i left
      rw [left]
      rw [left] at same
      rcases footprint.turned location with kept | ⟨-, made⟩ | ⟨fills, -⟩
      · rw [← same, kept]
      · rw [made.made] at same
        exact absurd (grown.directory same.symm) (by rw [made.free]; simp)
      · have led := (fills_iff.mp fills).1
        rw [grown.destination] at led
        rw [undisturbed.output location led]
    · rfl
  · rw [if_pos left, leftLater]

/-- A job that does not fail leaves its output alone, when it is its input by the same components
and nothing was put in, or else puts in what has become of the bytes of its input. -/
theorem run_leaves {report : Report} {woven : Option (List UInt8)} (grounded : tree.Grounded)
    (reading : tree.read job.input = .ok bytes)
    (transformed : transformer.transform bytes = .ok (report, woven))
    (done : (job.run transformer tree).1.result.word ≠ "failed") :
    ∃ place, tree.destination? job.output = some place
      ∧ (job.run transformer tree).2.entryAt? place
        = if woven = none ∧ job.output.sameAs job.input = true then tree.entryAt? place
          else some (Entry.taking (woven.getD (job.copied tree bytes)) (tree.entryAt? place)) := by
  obtain ⟨-, source, located, input, file⟩ := file_of_transformed reading transformed
  have run_eq : job.run transformer tree
      = (⟨job.input, (job.finish tree report woven).1⟩, (job.finish tree report woven).2) := by
    simp only [run, reading, transformed]
  rw [run_eq] at done ⊢
  dsimp only at done ⊢
  rw [finish] at done ⊢
  have keeps : (woven.isNone && job.output.sameAs job.input) = true
      ↔ woven = none ∧ job.output.sameAs job.input = true := by
    rw [Bool.and_eq_true, Option.isNone_iff_eq_none]
  by_cases kept : woven = none ∧ job.output.sameAs job.input = true
  · rw [if_pos (keeps.mpr kept)]
    refine ⟨source, by rw [Tree.destination_of_same kept.2, input], ?_⟩
    rw [if_pos kept]
  · rw [if_neg (mt keeps.mp kept)] at done ⊢
    have fileThere := prepare_keeps job grounded file
    have grown := prepare_grown job grounded
    have turned := prepare_turned job grounded
    revert done fileThere grown turned
    rcases job.prepare tree with ⟨failure | ready, made⟩
    · exact fun failed => absurd rfl failed
    · intro done fileThere grown turned
      dsimp only at done fileThere grown turned ⊢
      cases storing : job.store made woven with
      | error failure =>
          rw [storing] at done
          exact absurd rfl done
      | ok stored =>
          obtain ⟨place, led, writable, -, entry⟩ :=
            store_filled (grown.grounded grounded) (grown.located located) fileThere storing
          rw [copied, grown.destination, grown.destination, ← copied] at entry
          rw [grown.destination] at led
          refine ⟨place, led, ?_⟩
          rcases turned place with same | there
          · rw [if_neg kept, entry, same]
          · -- What is written to is no directory, so nothing has been made there before.
            exact absurd there.made writable

/-- A job that does not fail leaves in its output what has become of the bytes of its input. An
output that holds something else than a file, or that is the input by another path, is left
out: what is written to a device is lost, and a file copied onto itself is emptied. -/
theorem run_fills {report : Report} {woven : Option (List UInt8)} (grounded : tree.Grounded)
    (reading : tree.read job.input = .ok bytes)
    (transformed : transformer.transform bytes = .ok (report, woven))
    (done : (job.run transformer tree).1.result.word ≠ "failed") :
    ∃ place, tree.destination? job.output = some place
      ∧ ((tree.entryAt? place = none ∨ ∃ old, tree.entryAt? place = some (.file old)) →
        (tree.destination? job.input = some place → job.output = job.input) →
          (job.run transformer tree).2.entryAt? place = some (.file (woven.getD bytes))) := by
  obtain ⟨-, source, -, input, file⟩ := file_of_transformed reading transformed
  obtain ⟨place, led, left⟩ := run_leaves grounded reading transformed done
  refine ⟨place, led, fun plain own => ?_⟩
  rw [left]
  by_cases kept : woven = none ∧ job.output.sameAs job.input = true
  · have same := Tree.destination_of_same kept.2 tree
    rw [led, input] at same
    rw [if_pos kept, Option.some.inj same, kept.1, file]
    rfl
  · have content : woven.getD (job.copied tree bytes) = woven.getD bytes := by
      cases woven with
      | some content => rfl
      | none =>
          have different : tree.destination? job.output ≠ tree.destination? job.input := by
            intro here
            apply kept
            rw [own (here.symm.trans led)]
            simp [Path.sameAs]
          rw [copied, if_neg different]
    rw [if_neg kept, content]
    rcases plain with none | ⟨old, isFile⟩
    · rw [none]
      rfl
    · rw [isFile]
      rfl

end WeaveJob

end AccessWeave
