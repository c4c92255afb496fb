import AccessWeave.Proofs.Class.BinaryForm
import AccessWeave.Proofs.Command.UnmodifiedFiles

/-!
# Directories and single files

Without a format, a directory is searched for the extension of binary artifacts, and a file with
that extension is taken for a binary artifact when it is given alone. For a whole directory the
format is told from the name of the directory, so a directory that is named like a JSON text has
its binary artifacts read as JSON. No file is a class in both formats. So below such a directory a
file is reported as it is alone only if it fails in both ways, and below every other directory
each file comes to what it comes to alone. What leads to no file at all is refused when it is given
alone, and fails below a directory.
-/

namespace AccessWeave

/-! ### Formats -/

theorem Codec.of_path_of_scanned {path : Path}
    (extended : path.extension? = some (Codec.extension .binary)) :
    Codec.ofPath path = .binary := by
  rw [ofPath, Path.hasExtension, extended]
  decide

/-- The first byte of a binary artifact begins no document. -/
theorem Json.read_magic (bytes : List UInt8) : Json.read (Codec.magic ++ bytes) = none := by
  have shown : isJsonBlank 0x43 = false := by decide
  rw [Codec.magic, List.cons_append, read, List.length_cons, readDocument]
  simp only [skipBlanks, shown, readNumber, readUnsigned, readWhole]
  rfl

/-- No bytes are a class in both formats. -/
theorem Codec.formats_apart (bytes : List UInt8) :
    (∃ error, Codec.binary.decode bytes = .error error) ∨
      ∃ error, Codec.json.decode bytes = .error error := by
  cases decoded : Codec.binary.decode bytes with
  | error error => exact .inl ⟨error, rfl⟩
  | ok file =>
      obtain ⟨-, suffix, rfl⟩ := decode_binary_iff.mp decoded
      refine .inr ⟨.malformed, ?_⟩
      rw [decode, decodeJson, bytesOf, header, List.append_assoc, List.append_assoc,
        Json.read_magic]
      rfl

theorem Transformer.transform_undecoded {transformer : Transformer} {bytes : List UInt8}
    {error : CodecError} (undecoded : transformer.codec.decode bytes = .error error) :
    transformer.transform bytes = .error (.decode error) := by
  rw [transform, undecoded]

/-! ### What is compared -/

theorem FileOutcome.same_of_failed {left right : FileOutcome} (path : left.path = right.path)
    (leftFailed : left.result.word = "failed") (rightFailed : right.result.word = "failed") :
    left.withoutText = right.withoutText := by
  have plain : ∀ {result : FileResult}, result.word = "failed" →
      result.withoutText = .failed (.plain "") := by
    intro result failed
    cases result with
    | failed failure => rfl
    | modified report | unchanged report => simp [FileResult.word] at failed
  rw [withoutText, withoutText, path, plain leftFailed, plain rightFailed]

theorem FileOutcome.failed_of_same {left right : FileOutcome}
    (same : left.withoutText = right.withoutText) (failed : left.result.word = "failed") :
    right.result.word = "failed" := by
  have words : ∀ result : FileResult, result.withoutText.word = result.word := by
    intro result
    cases result <;> rfl
  have results : left.result.withoutText = right.result.withoutText :=
    congrArg FileOutcome.result same
  rw [← words, ← results, words, failed]

namespace WeaveRequest

variable {request : WeaveRequest} {tree : Tree} {job : WeaveJob}

/-- The request for one of the files, with the same options. -/
def alone (request : WeaveRequest) (job : WeaveJob) : WeaveRequest :=
  { request with input := job.input, output := request.output.map fun _ => job.output }

theorem scanned_extension (plain : request.format = none)
    (member : job ∈ request.directoryJobs tree) :
    job.input.extension? = some (Codec.extension .binary) := by
  obtain ⟨names, -, extended, rfl⟩ := mem_directory_jobs member
  rw [jobFor, extended, plain, Option.getD_none]

theorem output_alone (member : job ∈ request.directoryJobs tree) :
    (request.alone job).output.getD job.input = job.output := by
  obtain ⟨names, -, -, rfl⟩ := mem_directory_jobs member
  rw [alone, jobFor]
  cases request.output <;> rfl

/-- Given alone, what is found below a directory is the only job, unless it leads to no file. -/
theorem jobs_alone (wellFormed : tree.WellFormed) (member : job ∈ request.directoryJobs tree) :
    tree.isFile job.input = false ∧
      (request.alone job).jobs tree = .error (.plain (job.input.text ++ " does not exist")) ∨
    tree.isFile job.input = true ∧ (request.alone job).jobs tree = .ok [job] := by
  have input : (request.alone job).input = job.input := rfl
  cases isFile : tree.isFile job.input with
  | true =>
      refine .inr ⟨rfl, ?_⟩
      rw [jobs, input, if_pos isFile, output_alone member]
  | false =>
      have no_directory : tree.isDirectory job.input = false := by
        obtain ⟨names, below, -, rfl⟩ := mem_directory_jobs member
        exact below.no_directory wellFormed
      refine .inl ⟨rfl, ?_⟩
      rw [jobs, input, isFile, no_directory]
      rfl

/-- What leads to no file fails, and nothing is written. -/
theorem run_of_no_file (transformer : Transformer) (no_file : tree.isFile job.input = false) :
    ∃ failure, job.run transformer tree = (⟨job.input, .failed failure⟩, tree) := by
  rw [WeaveJob.run]
  cases reading : tree.read job.input with
  | error fault => exact ⟨_, rfl⟩
  | ok bytes =>
      cases transformed : transformer.transform bytes with
      | error error => exact ⟨_, by simp only [transformed]; rfl⟩
      | ok result =>
          obtain ⟨-, place, located, -, file⟩ := WeaveJob.file_of_transformed reading transformed
          have found : tree.lookup job.input = .ok (.file bytes) :=
            Tree.lookup_ok_iff.mpr ⟨place, located, file⟩
          rw [Tree.is_file_iff.mpr (.inl ⟨bytes, found⟩)] at no_file
          cases no_file

theorem codec_alone (plain : request.format = none)
    (member : job ∈ request.directoryJobs tree) :
    (request.alone job).transformer.codec = .binary := by
  have extended := scanned_extension plain member
  rw [transformer, alone, plain]
  exact Codec.of_path_of_scanned extended

theorem transformer_alone (plain : request.format = none)
    (member : job ∈ request.directoryJobs tree)
    (named : request.input.hasExtension "json" = false) :
    (request.alone job).transformer = request.transformer := by
  have extended := scanned_extension plain member
  have binary : Codec.ofPath request.input = .binary := by
    rw [Codec.ofPath, named, if_neg Bool.false_ne_true]
  rw [transformer, transformer, alone, plain, binary, Option.getD_none]
  exact congrArg (Transformer.mk _ · _) (Codec.of_path_of_scanned extended)

/-- Below a directory whose name has the extension of a JSON text, a file fails or fails alone, and
where it fails nothing is written. -/
theorem one_run_fails (plain : request.format = none)
    (member : job ∈ request.directoryJobs tree)
    (named : request.input.hasExtension "json" = true) (isFile : tree.isFile job.input = true) :
    (∃ failure, job.run request.transformer tree = (⟨job.input, .failed failure⟩, tree)) ∨
      ∃ failure, job.run (request.alone job).transformer tree
        = (⟨job.input, .failed failure⟩, tree) := by
  have json : request.transformer.codec = .json := by
    rw [transformer, plain]
    exact if_pos named
  obtain ⟨bytes, reading⟩ : ∃ bytes, tree.read job.input = .ok bytes := by
    rcases Tree.is_file_iff.mp isFile with ⟨bytes, found⟩ | ⟨name, found⟩
    · exact ⟨bytes, by rw [Tree.read, found]; rfl⟩
    · exact ⟨programBytes, by rw [Tree.read, found]; rfl⟩
  rcases Codec.formats_apart bytes with ⟨error, undecoded⟩ | ⟨error, undecoded⟩
  · rw [← codec_alone plain member] at undecoded
    exact .inr ⟨_, WeaveJob.run_unwoven reading (Transformer.transform_undecoded undecoded)⟩
  · rw [← json] at undecoded
    exact .inl ⟨_, WeaveJob.run_unwoven reading (Transformer.transform_undecoded undecoded)⟩

/-- A file that fails alone fails among others, and its output is left as it was. -/
theorem failed_among {outcome : FileOutcome} {after : Tree} {failure : Failure}
    {transformer : Transformer}
    (among : WeaveJob.RunsAsAlone transformer tree job outcome after)
    (failed : job.run transformer tree = (⟨job.input, .failed failure⟩, tree)) :
    outcome.result.word = "failed" ∧ ∀ place, tree.destination? job.output = some place →
      after.entryAt? place = tree.entryAt? place := by
  constructor
  · have same := among.same.symm
    rw [failed] at same
    exact FileOutcome.failed_of_same same rfl
  · intro place led
    rw [among.output place led, failed]

theorem path_among {outcome : FileOutcome} {after : Tree} {transformer : Transformer}
    (among : WeaveJob.RunsAsAlone transformer tree job outcome after) :
    outcome.path = job.input := by
  obtain ⟨earlierTree, ran, -⟩ := among.report
  rw [ran]
  exact WeaveJob.run_path transformer job earlierTree

/-- There the two runs agree only in failing. -/
theorem agree_only_in_failing {outcome : FileOutcome} {after : Tree}
    (plain : request.format = none) (member : job ∈ request.directoryJobs tree)
    (named : request.input.hasExtension "json" = true) (isFile : tree.isFile job.input = true)
    (among : WeaveJob.RunsAsAlone request.transformer tree job outcome after) :
    (outcome.withoutText = (job.run (request.alone job).transformer tree).1.withoutText ↔
      outcome.result.word = "failed" ∧
        (job.run (request.alone job).transformer tree).1.result.word = "failed") ∧
    ((outcome.result.word = "failed" ∧ ∀ place, tree.destination? job.output = some place →
        after.entryAt? place = tree.entryAt? place) ∨
      (job.run (request.alone job).transformer tree).1.result.word = "failed" ∧
        (job.run (request.alone job).transformer tree).2 = tree) := by
  have oneFails := one_run_fails plain member named isFile
  constructor
  · constructor
    · intro same
      rcases oneFails with ⟨failure, failed⟩ | ⟨failure, failed⟩
      · have fails := (failed_among among failed).1
        exact ⟨fails, FileOutcome.failed_of_same same fails⟩
      · have fails : (job.run (request.alone job).transformer tree).1.result.word = "failed" := by
          rw [failed]
          rfl
        exact ⟨FileOutcome.failed_of_same same.symm fails, fails⟩
    · rintro ⟨fails, failsAlone⟩
      have pathAlone := WeaveJob.run_path (request.alone job).transformer job tree
      exact FileOutcome.same_of_failed ((path_among among).trans pathAlone.symm) fails failsAlone
  · rcases oneFails with ⟨failure, failed⟩ | ⟨failure, failed⟩
    · exact .inl (failed_among among failed)
    · rw [failed]
      exact .inr ⟨rfl, rfl⟩

/-- What becomes of a file below a directory is what becomes of it alone, unless the name of the
directory has the extension of a JSON text. The two runs then have different formats, one of them
fails and writes nothing, and they agree only if the other one fails as well. What leads to no file
fails below a directory and is refused alone. -/
theorem directory_run_agrees_iff (request : WeaveRequest) (tree : Tree)
    (jobs earlier others : List WeaveJob) (job : WeaveJob) (wellFormed : tree.WellFormed)
    (directory : tree.isDirectory request.input = true) (plain : request.format = none)
    (planned : request.jobs tree = .ok jobs) (order : (earlier ++ job :: others).Perm jobs)
    (clear : request.Clear tree (earlier ++ others) job) :
    ∃ outcome,
      (WeaveJob.runAll request.transformer (earlier ++ job :: others) tree).1[earlier.length]?
        = some outcome ∧ outcome.path = job.input ∧
      (tree.isFile job.input = false ∧ outcome.result.word = "failed" ∧
          (∀ place, tree.destination? job.output = some place →
            (WeaveJob.runAll request.transformer (earlier ++ job :: others) tree).2.entryAt? place
              = tree.entryAt? place) ∧
          (request.alone job).jobs tree = .error (.plain (job.input.text ++ " does not exist")) ∨
        (request.alone job).jobs tree = .ok [job] ∧ ∃ single after,
          WeaveJob.runAll (request.alone job).transformer [job] tree = ([single], after) ∧
          (outcome.withoutText = single.withoutText ↔
            request.input.hasExtension "json" = false ∨
              outcome.result.word = "failed" ∧ single.result.word = "failed") ∧
          (request.input.hasExtension "json" = false →
            ∀ place, tree.destination? job.output = some place →
              (WeaveJob.runAll request.transformer (earlier ++ job :: others) tree).2.entryAt? place
                = after.entryAt? place) ∧
          (request.input.hasExtension "json" = true →
            (outcome.result.word = "failed" ∧
                ∀ place, tree.destination? job.output = some place →
                  (WeaveJob.runAll request.transformer (earlier ++ job :: others)
                    tree).2.entryAt? place = tree.entryAt? place) ∨
              single.result.word = "failed" ∧ after = tree)) := by
  have found : jobs = request.directoryJobs tree := by
    rw [jobs_of_directory directory, Except.ok.injEq] at planned
    exact planned.symm
  have member : job ∈ request.directoryJobs tree := by
    rw [← found]
    exact order.mem_iff.mp (by simp)
  obtain ⟨outcome, isOutcome, among⟩ := runs_as_alone wellFormed planned order clear
  refine ⟨outcome, isOutcome, path_among among, ?_⟩
  rcases jobs_alone wellFormed member with ⟨no_file, refused⟩ | ⟨isFile, single⟩
  · obtain ⟨failure, failed⟩ := run_of_no_file request.transformer no_file
    obtain ⟨fails, left⟩ := failed_among among failed
    exact .inl ⟨no_file, fails, left, refused⟩
  · refine .inr ⟨single, (job.run (request.alone job).transformer tree).1,
      (job.run (request.alone job).transformer tree).2, rfl, ?_⟩
    cases named : request.input.hasExtension "json" with
    | false =>
        rw [transformer_alone plain member named]
        exact ⟨iff_of_true among.same (.inl rfl), fun _ => among.output, by simp⟩
    | true =>
        obtain ⟨agree, fails⟩ := agree_only_in_failing plain member named isFile among
        rw [or_iff_right (by simp)]
        exact ⟨agree, by simp, fun _ => fails⟩

/-- A directory with one class, which has a call to guard. -/
def classesTree (directory : String) : Tree where
  current := ["w"]
  entries :=
    [(["w"], .directory), (["w", directory], .directory),
     (["w", directory, "a.cgc"], .file (Codec.binary.bytesOf stopperClass))]

def classesRequest (directory : String) : WeaveRequest :=
  ⟨⟨directory⟩, none, none, .allRules, .beforeCall⟩

def classesJob (directory : String) : WeaveJob :=
  ⟨Path.inside ⟨directory⟩ "a.cgc", Path.inside ⟨directory⟩ "a.cgc"⟩

theorem classes_jobs {directory : String}
    (isDirectory : (classesTree directory).isDirectory ⟨directory⟩ = true)
    (found : (classesTree directory).matchingFiles ⟨directory⟩ "cgc" = ["a.cgc"]) :
    (classesRequest directory).jobs (classesTree directory) = .ok [classesJob directory] := by
  rw [jobs_of_directory isDirectory, directoryJobs]
  change Except.ok ((((classesTree directory).matchingFiles ⟨directory⟩ "cgc").map _).mergeSort _)
    = _
  rw [found, List.map_singleton, List.mergeSort_singleton]
  rfl

theorem named_classes_agree_and_json_classes_do_not :
    ((classesTree "classes").WellFormed ∧
      (classesTree "classes").isDirectory (classesRequest "classes").input = true ∧
      (classesRequest "classes").jobs (classesTree "classes") = .ok [classesJob "classes"] ∧
      ∃ outcome single after,
        (WeaveJob.runAll (classesRequest "classes").transformer [classesJob "classes"]
          (classesTree "classes")).1[0]? = some outcome ∧
        WeaveJob.runAll ((classesRequest "classes").alone (classesJob "classes")).transformer
          [classesJob "classes"] (classesTree "classes") = ([single], after) ∧
        outcome.withoutText = single.withoutText) ∧
    (classesTree "classes.json").WellFormed ∧
      (classesTree "classes.json").isDirectory (classesRequest "classes.json").input = true ∧
      (classesRequest "classes.json").jobs (classesTree "classes.json")
        = .ok [classesJob "classes.json"] ∧
      ∃ outcome single after,
        (WeaveJob.runAll (classesRequest "classes.json").transformer [classesJob "classes.json"]
          (classesTree "classes.json")).1[0]? = some outcome ∧
        WeaveJob.runAll
          ((classesRequest "classes.json").alone (classesJob "classes.json")).transformer
          [classesJob "classes.json"] (classesTree "classes.json") = ([single], after) ∧
        outcome.withoutText ≠ single.withoutText := by
  have wellFormed : ∀ directory ∈ ["classes", "classes.json"],
      (classesTree directory).WellFormed := by
    intro directory listed
    rcases List.mem_pair.mp listed with rfl | rfl
    all_goals
      exact ⟨by decide +kernel, by decide +kernel, by decide +kernel, by decide +kernel⟩
  have plainFolder : (classesTree "classes").isDirectory ⟨"classes"⟩ = true := by decide +kernel
  have jsonFolder : (classesTree "classes.json").isDirectory ⟨"classes.json"⟩ = true := by
    decide +kernel
  have plainJobs := classes_jobs plainFolder (by decide +kernel)
  have jsonJobs := classes_jobs jsonFolder (by decide +kernel)
  refine ⟨⟨wellFormed _ (by simp), plainFolder, plainJobs, ?_⟩,
    wellFormed _ (by simp), jsonFolder, jsonJobs, ?_⟩
  · obtain ⟨outcome, found, -, ⟨no_file, -⟩ | ⟨-, single, after, ran, agree, -⟩⟩ :=
      directory_run_agrees_iff (classesRequest "classes") (classesTree "classes") _ [] []
        (classesJob "classes") (wellFormed _ (by simp)) plainFolder rfl plainJobs
        (List.Perm.refl _) (.inl (by decide +kernel))
    · exact absurd no_file (by decide +kernel)
    · exact ⟨outcome, single, after, found, ran, agree.mpr (.inl (by decide +kernel))⟩
  · obtain ⟨outcome, found, -, ⟨no_file, -⟩ | ⟨-, single, after, ran, agree, -⟩⟩ :=
      directory_run_agrees_iff (classesRequest "classes.json") (classesTree "classes.json") _ [] []
        (classesJob "classes.json") (wellFormed _ (by simp)) jsonFolder rfl jsonJobs
        (List.Perm.refl _) (.inl (by decide +kernel))
    · exact absurd no_file (by decide +kernel)
    · refine ⟨outcome, single, after, found, ran, fun same => ?_⟩
      have succeeds : (WeaveJob.runAll
          ((classesRequest "classes.json").alone (classesJob "classes.json")).transformer
          [classesJob "classes.json"] (classesTree "classes.json")).1.map
            (fun file => file.result.word) = ["modified"] := by decide +kernel
      rw [ran] at succeeds
      rcases agree.mp same with plain | ⟨-, failed⟩
      · exact absurd plain (by decide +kernel)
      · simp [failed] at succeeds

/-- The name of the directory alone makes the command fail on a class that it weaves when it is
given the file. -/
theorem directory_named_like_a_text_fails :
    (runTransform false (classesRequest "classes.json") (classesTree "classes.json")).status = 1 ∧
      (runTransform false (classesRequest "classes.json") (classesTree "classes.json")).tree
        = classesTree "classes.json" ∧
      (runTransform false ((classesRequest "classes.json").alone (classesJob "classes.json"))
          (classesTree "classes.json")).status = 0 ∧
      (runTransform false ((classesRequest "classes.json").alone (classesJob "classes.json"))
          (classesTree "classes.json")).output =
        Text.toBytes ("modified   classes.json/a.cgc\n             stop()V <- Runtime.exit\n"
          ++ "1 modified, 0 unchanged, 0 failed\n") := by
  have directory : (classesTree "classes.json").isDirectory ⟨"classes.json"⟩ = true := by
    decide +kernel
  have planned := classes_jobs directory (by decide +kernel)
  rw [runTransform, planned]
  exact ⟨by decide +kernel, by decide +kernel, by decide +kernel, by decide +kernel⟩

end WeaveRequest

end AccessWeave
