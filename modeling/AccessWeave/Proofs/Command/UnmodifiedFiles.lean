import AccessWeave.Proofs.Command.Independence

/-!
# Files that are not modified

A file in which nothing was put in is copied to its output, unless the output is the path of the
input. Paths are compared by how they are written, so an output that is the same place by another
path is taken for another file: the file is copied onto itself, which empties it, and reported as
unchanged. In all other cases the output holds the bytes of the input, and a file that cannot be
woven leaves both places alone. Other files may be woven before and after, as long as they keep
clear of this one.
-/

namespace AccessWeave

namespace WeaveJob

variable {transformer : Transformer} {tree later : Tree} {job other : WeaveJob}
  {done : List WeaveJob}

/-- The output is the place of the input by a path with other components. -/
def Respelled (job : WeaveJob) (tree : Tree) : Prop :=
  tree.destination? job.output = tree.destination? job.input ∧
    job.output.sameAs job.input = false

instance (job : WeaveJob) (tree : Tree) : Decidable (job.Respelled tree) :=
  inferInstanceAs (Decidable (_ ∧ _))

/-! ### One file -/

/-- What is reported as unchanged had nothing put in. -/
theorem finish_unchanged {report reported : Report} {woven : Option (List UInt8)}
    (unchanged : (job.finish tree report woven).1 = .unchanged reported) : woven = none := by
  rw [finish] at unchanged
  split at unchanged
  · rename_i kept
    rw [Bool.and_eq_true, Option.isNone_iff_eq_none] at kept
    exact kept.1
  · rcases prepared : job.prepare tree with ⟨failure | ready, made⟩
    · simp [prepared] at unchanged
    · simp only [prepared] at unchanged
      cases storing : job.store made woven with
      | error failure => simp [storing] at unchanged
      | ok stored =>
          cases woven with
          | none => rfl
          | some bytes => simp [storing] at unchanged

/-- A file that is reported as unchanged is kept when its output is its own path, and otherwise its
output takes the bytes that the file has left. -/
theorem run_unchanged {report : Report} (grounded : tree.Grounded)
    (unchanged : (job.run transformer tree).1.result = .unchanged report) :
    ∃ bytes source place, tree.read job.input = .ok bytes ∧ bytes ≠ [] ∧
      tree.destination? job.input = some source ∧ tree.entryAt? source = some (.file bytes) ∧
      tree.destination? job.output = some place ∧
      (job.run transformer tree).2.entryAt? place =
        if job.output.sameAs job.input = true then some (.file bytes)
        else some (Entry.taking (job.copied tree bytes) (tree.entryAt? place)) := by
  cases reading : tree.read job.input with
  | error fault => simp [run, reading] at unchanged
  | ok bytes =>
      cases transformed : transformer.transform bytes with
      | error error => simp [run, reading, transformed] at unchanged
      | ok result =>
          obtain ⟨found, woven⟩ := result
          obtain ⟨content, source, -, input, file⟩ := file_of_transformed reading transformed
          have finishing : (job.finish tree found woven).1 = .unchanged report := by
            simpa [run, reading, transformed] using unchanged
          obtain rfl := finish_unchanged finishing
          have done : (job.run transformer tree).1.result.word ≠ "failed" := by
            rw [unchanged]
            simp [FileResult.word]
          obtain ⟨place, output, entry⟩ := run_leaves grounded reading transformed done
          refine ⟨bytes, source, place, rfl, content, input, file, output, ?_⟩
          rw [entry]
          by_cases same : job.output.sameAs job.input = true
          · rw [Tree.destination_of_same same, input] at output
            rw [if_pos ⟨rfl, same⟩, if_pos same, ← Option.some.inj output, file]
          · rw [if_neg (fun kept => same kept.2), if_neg same]
            rfl

theorem run_unwoven {bytes : List UInt8} {error : TransformError}
    (reading : tree.read job.input = .ok bytes)
    (failed : transformer.transform bytes = .error error) :
    job.run transformer tree =
      (⟨job.input, .failed ⟨error.message, error.causes⟩⟩, tree) := by
  simp only [run, reading, failed]

/-! ### One file among others -/

theorem passed_grown (grown : Tree.Grown tree later) (job : WeaveJob) :
    job.passed later = job.passed tree := by
  rw [passed, passed, Tree.passed, Tree.passed, grown.stops, grown.origin]

theorem asked_grown (grown : Tree.Grown tree later) (job : WeaveJob) :
    job.asked later = job.asked tree := by
  rw [asked, asked, grown.origin, grown.origin, grown.standing, grown.behind_links]

/-- What a job fills after other jobs is what it fills at first, or what one of them has filled. -/
theorem Touched.fills {place : Location} (touched : Touched tree done later)
    (fills : job.fills later = some place) :
    job.fills tree = some place
      ∨ later.entryAt? place ≠ none ∧ ∃ other ∈ done, other.fills tree = some place := by
  have grown := touched.grown
  obtain ⟨led, file, missing⟩ := fills_iff.mp fills
  rw [grown.destination] at led missing
  have fileBefore : tree.entryAt? place ≠ some .directory :=
    fun directory => file (grown.directory directory)
  by_cases left : later.entryAt? place = none
  · exact .inl (fills_iff.mpr ⟨led, fileBefore, fun _ => missing left⟩)
  · by_cases free : tree.entryAt? place = none
    · rcases touched.turned place with same | ⟨-, made⟩ | ⟨filled, -⟩
      · exact absurd (same.trans free) left
      · exact absurd made.made file
      · exact .inr ⟨left, filled⟩
    · exact .inl (fills_iff.mpr ⟨led, fileBefore, fun none => absurd none free⟩)

/-- A job still keeps clear of another one when that one and others that keep clear have run. -/
theorem KeepsClear.touched (clear : KeepsClear tree other job) (touched : Touched tree done later)
    (others : ∀ earlier ∈ done, earlier = job ∨ KeepsClear tree earlier job) :
    KeepsClear later other job := by
  have grown := touched.grown
  rw [KeepsClear, Spares, passed_grown grown, passed_grown grown, asked_grown grown,
    grown.destination, grown.destination, grown.destination]
  refine ⟨⟨?_, ?_⟩, ?_⟩
  · intro place fills
    rcases touched.fills fills with before | ⟨left, earlier, member, filled⟩
    · obtain ⟨input, output, passed⟩ := clear.1.1 place before
      exact ⟨input, output, fun free => passed (grown.free_of_free free)⟩
    · have led := (fills_iff.mp fills).1
      rw [grown.destination] at led
      rcases others earlier member with rfl | clears
      · exact absurd led (clear.2 place filled).1
      · obtain ⟨input, output, -⟩ := clears.1.1 place filled
        exact ⟨input, output, fun free => absurd free left⟩
  · intro place added
    obtain ⟨puts, free⟩ := mem_adds.mp added
    apply clear.1.2 place
    refine mem_adds.mpr ⟨?_, grown.free_of_free free⟩
    rcases puts with fills | passed
    · rcases touched.fills fills with before | ⟨left, -⟩
      · exact .inl before
      · exact absurd free left
    · rw [passed_grown grown] at passed
      exact .inr passed
  · intro place fills
    have before : job.fills tree = some place := by
      rcases touched.fills fills with before | ⟨-, earlier, member, filled⟩
      · exact before
      · have led := (fills_iff.mp fills).1
        rw [grown.destination] at led
        rcases others earlier member with rfl | clears
        · exact filled
        · exact absurd led (clears.1.1 place filled).2.1
    obtain ⟨output, passed⟩ := clear.2 place before
    exact ⟨output, fun free => passed (grown.free_of_free free)⟩

theorem Touched.refl (tree : Tree) : Touched tree [] tree :=
  ⟨rfl, fun _ => .inl rfl⟩

/-- One more job makes directories on its way and fills its output. -/
theorem Touched.run (transformer : Transformer) (touched : Touched tree done later)
    (grounded : tree.Grounded) (job : WeaveJob) :
    Touched tree (done ++ [job]) (job.run transformer later).2 := by
  have grown := touched.grown
  have footprint := run_footprint transformer job (grown.grounded grounded)
  have last : job ∈ done ++ [job] := List.mem_append_right _ (List.mem_singleton.mpr rfl)
  have wider : ∀ {holds : WeaveJob → Prop}, (∃ other ∈ done, holds other) →
      ∃ other ∈ done ++ [job], holds other := by
    rintro holds ⟨other, member, held⟩
    exact ⟨other, List.mem_append_left _ member, held⟩
  refine ⟨footprint.current.trans touched.current, ?_⟩
  intro location
  rcases footprint.turned location with same | ⟨passed, made⟩ | ⟨fills, filled⟩
  · rcases touched.turned location with kept | ⟨passed, made⟩ | ⟨fills, filled⟩
    · exact .inl (same.trans kept)
    · exact .inr (.inl ⟨wider passed, made.free, made.allowed, same.trans made.made⟩)
    · obtain ⟨entry, found, bytes⟩ := filled.after
      exact .inr (.inr ⟨wider fills, filled.before, entry, same.trans found, bytes⟩)
  · -- What is free now was free at first: nothing is taken away.
    rw [passed_grown grown] at passed
    have free := grown.free_of_free made.free
    exact .inr (.inl ⟨⟨job, last, passed⟩, free,
      Tree.makeable_of_free made.allowed made.free free, made.made⟩)
  · have isFilled : ∃ other ∈ done ++ [job], other.fills tree = some location := by
      rcases touched.fills fills with before | ⟨-, earlier⟩
      · exact ⟨job, last, before⟩
      · exact wider earlier
    refine .inr (.inr ⟨isFilled, ?_, filled.after⟩)
    intro entry found
    rcases touched.turned location with kept | ⟨-, earlier⟩ | ⟨-, earlier⟩
    · exact filled.before entry (kept.trans found)
    · rw [earlier.free] at found
      cases found
    · exact earlier.before entry found

theorem Touched.run_all (transformer : Transformer) (touched : Touched tree done later)
    (grounded : tree.Grounded) (remaining : List WeaveJob) :
    Touched tree (done ++ remaining) (runAll transformer remaining later).2 := by
  induction remaining generalizing done later with
  | nil =>
      rw [List.append_nil]
      exact touched
  | cons job jobs induction =>
      have next := induction (touched.run transformer grounded job)
      rw [List.append_assoc] at next
      exact next

theorem run_all_cons (transformer : Transformer) (job : WeaveJob) (jobs : List WeaveJob)
    (tree : Tree) :
    runAll transformer (job :: jobs) tree =
      ((job.run transformer tree).1 :: (runAll transformer jobs (job.run transformer tree).2).1,
        (runAll transformer jobs (job.run transformer tree).2).2) :=
  rfl

theorem run_all_append (transformer : Transformer) (front back : List WeaveJob) (tree : Tree) :
    runAll transformer (front ++ back) tree =
      ((runAll transformer front tree).1
          ++ (runAll transformer back (runAll transformer front tree).2).1,
        (runAll transformer back (runAll transformer front tree).2).2) := by
  induction front generalizing tree with
  | nil => rfl
  | cons job front induction =>
      rw [List.cons_append, run_all_cons, run_all_cons, induction]
      rfl

theorem run_all_length (transformer : Transformer) (jobs : List WeaveJob) (tree : Tree) :
    (runAll transformer jobs tree).1.length = jobs.length := by
  induction jobs generalizing tree with
  | nil => rfl
  | cons job jobs induction => exact congrArg (· + 1) (induction _)

/-- What a run of jobs comes to for one of them, of which the others keep clear: it reads what it
reads alone, and its input and output are left as it leaves them alone. -/
structure RunsAsAlone (transformer : Transformer) (tree : Tree) (job : WeaveJob)
    (outcome : FileOutcome) (after : Tree) : Prop where
  report : ∃ earlier, outcome = (job.run transformer earlier).1 ∧
    earlier.read job.input = tree.read job.input
  same : outcome.withoutText = (job.run transformer tree).1.withoutText
  output : ∀ place, tree.destination? job.output = some place →
    after.entryAt? place = (job.run transformer tree).2.entryAt? place
  input : (job.run transformer tree).2 = tree → ∀ place, tree.destination? job.input = some place →
    after.entryAt? place = tree.entryAt? place

theorem run_among {earlier others : List WeaveJob} (grounded : tree.Grounded)
    (clear : ∀ other ∈ earlier ++ others, KeepsClear tree other job) :
    ∃ outcome, (runAll transformer (earlier ++ job :: others) tree).1[earlier.length]?
        = some outcome ∧
      RunsAsAlone transformer tree job outcome
        (runAll transformer (earlier ++ job :: others) tree).2 := by
  rw [List.forall_mem_append] at clear
  have before := (Touched.refl tree).run_all transformer grounded earlier
  rw [List.nil_append] at before
  have here := before.run transformer grounded job
  rw [run_all_append, run_all_cons, ← run_all_length transformer earlier tree,
    List.getElem?_append_right (Nat.le_refl _), Nat.sub_self, List.getElem?_cons_zero]
  dsimp only
  generalize (runAll transformer earlier tree).2 = reached at before here ⊢
  have ready := before.undisturbed clear.1
  have behind := (Touched.refl (job.run transformer reached).2).run_all transformer
    (here.grown.grounded grounded) others
  rw [List.nil_append] at behind
  have others : ∀ other ∈ earlier ++ [job], other = job ∨ KeepsClear tree other job := by
    intro other member
    rcases List.mem_append.mp member with before | last
    · exact .inr (clear.1 other before)
    · exact .inl (List.mem_singleton.mp last)
  have left := behind.undisturbed fun other member => (clear.2 other member).touched here others
  refine ⟨_, rfl, ⟨_, rfl, read_alike ready⟩, (run_alike transformer grounded ready).1, ?_, ?_⟩
  · intro place led
    rw [left.output place (by rw [here.grown.destination, led]),
      run_undisturbed transformer grounded ready, ready.output place led]
    split
    · rename_i kept
      exact kept.symm
    · rfl
  · intro untouched place led
    rw [left.input place (by rw [here.grown.destination, led]),
      run_undisturbed transformer grounded ready, untouched, if_pos rfl, ready.input place led]

theorem run_path (transformer : Transformer) (job : WeaveJob) (tree : Tree) :
    (job.run transformer tree).1.path = job.input := by
  rw [run]
  cases tree.read job.input with
  | error fault => rfl
  | ok bytes =>
      dsimp only
      cases transformer.transform bytes <;> rfl

theorem unchanged_of_same {left right : FileOutcome} {report : Report}
    (same : left.withoutText = right.withoutText) (unchanged : left.result = .unchanged report) :
    right.result = .unchanged report := by
  have results : left.result.withoutText = right.result.withoutText :=
    congrArg FileOutcome.result same
  rw [unchanged] at results
  cases kind : right.result with
  | unchanged other =>
      rw [kind] at results
      exact results.symm
  | modified other =>
      rw [kind] at results
      cases results
  | failed failure =>
      rw [kind] at results
      cases results

end WeaveJob

namespace WeaveRequest

variable {request : WeaveRequest} {tree : Tree}

/-- Other jobs are not in the way of one: the files stay in place and lead elsewhere, or the jobs
keep clear of it. -/
def Clear (request : WeaveRequest) (tree : Tree) (others : List WeaveJob) (job : WeaveJob) : Prop :=
  request.InPlace ∧ (∀ other ∈ others, tree.LeadApart other.input job.input)
    ∨ ∀ other ∈ others, WeaveJob.KeepsClear tree other job

/-- In every order of the jobs of a request, a job of which the others keep clear does what it does
alone. -/
theorem runs_as_alone {jobs earlier others : List WeaveJob} {job : WeaveJob}
    (wellFormed : tree.WellFormed) (planned : request.jobs tree = .ok jobs)
    (order : (earlier ++ job :: others).Perm jobs)
    (clear : request.Clear tree (earlier ++ others) job) :
    ∃ outcome,
      (WeaveJob.runAll request.transformer (earlier ++ job :: others) tree).1[earlier.length]?
        = some outcome ∧
      WeaveJob.RunsAsAlone request.transformer tree job outcome
        (WeaveJob.runAll request.transformer (earlier ++ job :: others) tree).2 := by
  apply WeaveJob.run_among wellFormed.grounded
  rcases clear with ⟨inPlace, apart⟩ | clear
  · intro other member
    have isOther : other ∈ jobs := by
      apply order.mem_iff.mp
      rcases List.mem_append.mp member with before | behind
      · exact List.mem_append_left _ before
      · exact List.mem_append_right _ (List.mem_cons_of_mem _ behind)
    have isJob : job ∈ jobs := order.mem_iff.mp (by simp)
    by_cases directory : tree.isDirectory request.input = true
    · rw [jobs_of_directory directory, Except.ok.injEq] at planned
      rw [← planned] at isOther isJob
      exact (in_place_apart wellFormed directory inPlace isOther isJob
        (apart other member)).keeps_clear
    · -- A single file has no other jobs.
      have single : jobs.length = 1 := by
        rw [WeaveRequest.jobs] at planned
        split_ifs at planned
        rw [← Except.ok.inj planned]
        rfl
      have length := order.length_eq
      have count := List.length_pos_of_mem member
      rw [List.length_append] at length count
      rw [List.length_cons] at length
      omega
  · exact clear

/-- A file that is reported as unchanged is at its output, in every order of the jobs of which the
others keep clear of this one, exactly when its output is no channel and is not its own place
written in another way. In that case it is emptied. A file that cannot be decoded, woven or encoded
is reported for that, and neither its input nor its output is written to. -/
theorem unmodified_files_are_kept_iff (request : WeaveRequest) (tree : Tree)
    (jobs earlier others : List WeaveJob) (job : WeaveJob) (wellFormed : tree.WellFormed)
    (planned : request.jobs tree = .ok jobs) (order : (earlier ++ job :: others).Perm jobs)
    (clear : request.Clear tree (earlier ++ others) job) :
    ∃ outcome,
      (WeaveJob.runAll request.transformer (earlier ++ job :: others) tree).1[earlier.length]?
        = some outcome ∧ outcome.path = job.input ∧
      (∀ report, outcome.result = .unchanged report →
        ∃ bytes place, tree.read job.input = .ok bytes ∧
          tree.destination? job.output = some place ∧
          ((WeaveJob.runAll request.transformer (earlier ++ job :: others) tree).2.entryAt? place
              = some (.file bytes) ↔
            ¬job.Respelled tree ∧ (tree.entryAt? place).any Entry.isChannel = false) ∧
          (job.Respelled tree →
            (WeaveJob.runAll request.transformer (earlier ++ job :: others) tree).2.entryAt? place
              = some (.file []))) ∧
      ∀ bytes error, tree.read job.input = .ok bytes →
        request.transformer.transform bytes = .error error →
          outcome.result = .failed ⟨error.message, error.causes⟩ ∧
          ∀ place, tree.destination? job.input = some place ∨
              tree.destination? job.output = some place →
            (WeaveJob.runAll request.transformer (earlier ++ job :: others) tree).2.entryAt? place
              = tree.entryAt? place := by
  obtain ⟨outcome, found, alone⟩ := runs_as_alone wellFormed planned order clear
  obtain ⟨earlierTree, ran, readSame⟩ := alone.report
  refine ⟨outcome, found, ran ▸ WeaveJob.run_path _ job earlierTree, ?_, ?_⟩
  · intro report unchanged
    obtain ⟨bytes, source, place, reading, content, input, file, output, entry⟩ :=
      WeaveJob.run_unchanged wellFormed.grounded (WeaveJob.unchanged_of_same alone.same unchanged)
    refine ⟨bytes, place, reading, output, ?_, ?_⟩
    · rw [alone.output place output, entry]
      cases same : job.output.sameAs job.input with
      | true =>
          have plain : (tree.entryAt? place).any Entry.isChannel = false := by
            rw [Tree.destination_of_same same, input] at output
            rw [← Option.some.inj output, file]
            rfl
          have kept : ¬job.Respelled tree := by
            rintro ⟨-, differs⟩
            rw [same] at differs
            cases differs
          exact iff_of_true rfl ⟨kept, plain⟩
      | false =>
          rw [if_neg Bool.false_ne_true, Option.some.injEq, Entry.taking_eq_file_iff, and_comm]
          apply and_congr_left'
          rw [WeaveJob.copied, WeaveJob.Respelled, same]
          by_cases here : tree.destination? job.output = tree.destination? job.input
          · simp [here, Ne.symm content]
          · simp [here]
    · rintro ⟨here, differs⟩
      rw [alone.output place output, entry, differs, if_neg Bool.false_ne_true, WeaveJob.copied,
        if_pos here]
      rw [output, input] at here
      rw [Option.some.inj here, file]
      rfl
  · intro bytes error reading failed
    have untouched : (job.run request.transformer tree).2 = tree := by
      rw [WeaveJob.run_unwoven reading failed]
    refine ⟨?_, ?_⟩
    · rw [ran, WeaveJob.run_unwoven (readSame.trans reading) failed]
    · rintro place (input | output)
      · exact alone.input untouched place input
      · rw [alone.output place output, untouched]

/-- A class with nothing to guard is copied to another directory, and emptied by an output that is
its own directory with a point in front. -/
theorem idle_class_is_copied_elsewhere_and_emptied_at_home :
    nestedTree.WellFormed ∧
      (nestedRequest "e").jobs nestedTree = .ok [outerJob "e", innerJob "e"] ∧
      (nestedRequest "e").Clear nestedTree ([outerJob "e"] ++ []) (innerJob "e") ∧
      (WeaveJob.runAll (nestedRequest "e").transformer [outerJob "e", innerJob "e"]
          nestedTree).2.entryAt? ["w", "e", "1", "0.cgc"] =
        some (.file (Codec.binary.bytesOf idleClass)) ∧
      (nestedRequest "./d").jobs nestedTree = .ok [outerJob "./d", innerJob "./d"] ∧
      (nestedRequest "./d").Clear nestedTree ([outerJob "./d"] ++ []) (innerJob "./d") ∧
      (WeaveJob.runAll (nestedRequest "./d").transformer [outerJob "./d", innerJob "./d"]
          nestedTree).2.entryAt? ["w", "d", "1", "0.cgc"] =
        some (.file []) := by
  have reads : nestedTree.read (innerJob "e").input = .ok (Codec.binary.bytesOf idleClass) := by
    decide +kernel
  have elsewhere : nestedTree.destination? (innerJob "e").output
      = some ["w", "e", "1", "0.cgc"] := by decide +kernel
  have atHome : nestedTree.destination? (innerJob "./d").output
      = some ["w", "d", "1", "0.cgc"] := by decide +kernel
  have clearElsewhere :
      (nestedRequest "e").Clear nestedTree ([outerJob "e"] ++ []) (innerJob "e") :=
    .inr (by decide +kernel)
  have clearAtHome :
      (nestedRequest "./d").Clear nestedTree ([outerJob "./d"] ++ []) (innerJob "./d") :=
    .inl (by decide +kernel)
  have reported : ∀ output ∈ ["e", "./d"],
      (WeaveJob.runAll (nestedRequest output).transformer [outerJob output, innerJob output]
          nestedTree).1[1]? =
        some ⟨⟨"d/1/0.cgc"⟩, .unchanged ⟨"app/Idle", []⟩⟩ := by decide +kernel
  refine ⟨nested_tree_well_formed, nested_jobs "e", clearElsewhere, ?_, nested_jobs "./d",
    clearAtHome, ?_⟩
  · obtain ⟨outcome, found, -, unchanged, -⟩ :=
      unmodified_files_are_kept_iff (nestedRequest "e") nestedTree _ [outerJob "e"] []
        (innerJob "e") nested_tree_well_formed (nested_jobs "e") (List.Perm.refl _) clearElsewhere
    have same := found.symm.trans (reported "e" (by simp))
    obtain ⟨bytes, place, reading, led, kept, -⟩ :=
      unchanged ⟨"app/Idle", []⟩ (by rw [Option.some.inj same])
    rw [reads, Except.ok.injEq] at reading
    obtain rfl := Option.some.inj (elsewhere.symm.trans led)
    rw [reading]
    exact kept.mpr (by decide +kernel)
  · obtain ⟨outcome, found, -, unchanged, -⟩ :=
      unmodified_files_are_kept_iff (nestedRequest "./d") nestedTree _ [outerJob "./d"] []
        (innerJob "./d") nested_tree_well_formed (nested_jobs "./d") (List.Perm.refl _)
        clearAtHome
    have same := found.symm.trans (reported "./d" (by simp))
    obtain ⟨bytes, place, -, led, -, emptied⟩ :=
      unchanged ⟨"app/Idle", []⟩ (by rw [Option.some.inj same])
    obtain rfl := Option.some.inj (atHome.symm.trans led)
    exact emptied (by decide +kernel)

/-- A directory with one class, which is nothing to guard in. -/
def idleTree : Tree where
  current := ["w"]
  entries :=
    [(["w"], .directory), (["w", "a.cgc"], .file (Codec.binary.bytesOf idleClass))]

/-- With a point in front of the same name as the output, the command ends well and reports the
file as unchanged. The file is empty then. -/
theorem respelled_output_empties_the_file :
    idleTree.read ⟨"a.cgc"⟩ = .ok (Codec.binary.bytesOf idleClass) ∧
      (runTransform false ⟨⟨"a.cgc"⟩, some ⟨"./a.cgc"⟩, none, .allRules, .beforeCall⟩
          idleTree).status = 0 ∧
      (runTransform false ⟨⟨"a.cgc"⟩, some ⟨"./a.cgc"⟩, none, .allRules, .beforeCall⟩
          idleTree).output =
        Text.toBytes "unchanged  a.cgc\n0 modified, 1 unchanged, 0 failed\n" ∧
      (runTransform false ⟨⟨"a.cgc"⟩, some ⟨"./a.cgc"⟩, none, .allRules, .beforeCall⟩
          idleTree).tree.read ⟨"./a.cgc"⟩ = .ok [] ∧
      Codec.binary.bytesOf idleClass ≠ [] := by
  decide +kernel

end WeaveRequest

end AccessWeave
