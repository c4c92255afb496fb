import AccessWeave.Proofs.Command.OneFile
import AccessWeave.Proofs.Host.Scanning
import Mathlib.Data.List.Pairwise

/-!
# Weaving the files of a directory in any order

The jobs of a directory are told from the tree as it is at first, and each one reads its input
when it runs. When no job fills what another one reads, fills or asks for, every order of the jobs
comes to the same: each job does what it would do alone. In place this is so when no two files are
the same one over links. When the output lies inside the input, one job can write to the input of
another.
-/

namespace AccessWeave

/-- Two paths lead to different places, as far as they lead anywhere. -/
def Tree.LeadApart (tree : Tree) (left right : Path) : Prop :=
  ∀ place ∈ tree.destination? left, tree.destination? right ≠ some place

instance (tree : Tree) (left right : Path) : Decidable (tree.LeadApart left right) :=
  inferInstanceAs (Decidable
    (∀ place ∈ tree.destination? left, tree.destination? right ≠ some place))

theorem Tree.LeadApart.symm {tree : Tree} {left right : Path} (apart : tree.LeadApart left right) :
    tree.LeadApart right left :=
  fun place isRight isLeft => apart place isLeft isRight

namespace WeaveJob

/-- The places where a job can put something and nothing is. -/
def adds (job : WeaveJob) (tree : Tree) : List Location :=
  ((job.fills tree).toList ++ job.passed tree).filter fun place => tree.entryAt? place = none

/-- The job fills nothing that another job reads or fills, or passes where nothing is. It puts
nothing where the other job asks for something. -/
def Spares (tree : Tree) (job other : WeaveJob) : Prop :=
  (∀ place ∈ job.fills tree, tree.destination? other.input ≠ some place
      ∧ tree.destination? other.output ≠ some place
      ∧ (tree.entryAt? place = none → place ∉ other.passed tree))
    ∧ ∀ place ∈ job.adds tree, place ∉ other.asked tree

/-- The job does nothing at all to what another job has to do with, apart from making directories on
its way, whatever the other one has done before. -/
def KeepsClear (tree : Tree) (job other : WeaveJob) : Prop :=
  Spares tree job other
    ∧ ∀ place ∈ other.fills tree, tree.destination? job.output ≠ some place
      ∧ (tree.entryAt? place = none → place ∉ job.passed tree)

/-- Neither job is in the way of the other. -/
def Apart (tree : Tree) (job other : WeaveJob) : Prop :=
  Spares tree job other ∧ Spares tree other job

theorem Apart.keeps_clear {tree : Tree} {job other : WeaveJob} (apart : Apart tree job other) :
    KeepsClear tree job other :=
  ⟨apart.1, fun place fills => (apart.2.1 place fills).2⟩

instance (tree : Tree) : DecidableRel (Spares tree) := fun job other =>
  inferInstanceAs (Decidable
    ((∀ place ∈ job.fills tree, tree.destination? other.input ≠ some place
        ∧ tree.destination? other.output ≠ some place
        ∧ (tree.entryAt? place = none → place ∉ other.passed tree))
      ∧ ∀ place ∈ job.adds tree, place ∉ other.asked tree))

instance (tree : Tree) : DecidableRel (KeepsClear tree) := fun job other =>
  inferInstanceAs (Decidable (Spares tree job other
    ∧ ∀ place ∈ other.fills tree, tree.destination? job.output ≠ some place
      ∧ (tree.entryAt? place = none → place ∉ job.passed tree)))

instance (tree : Tree) : DecidableRel (Apart tree) := fun job other =>
  inferInstanceAs (Decidable (Spares tree job other ∧ Spares tree other job))

/-- All that some jobs can have done to a tree. -/
structure Touched (tree : Tree) (done : List WeaveJob) (later : Tree) : Prop where
  current : later.current = tree.current
  turned : ∀ location, later.entryAt? location = tree.entryAt? location
    ∨ (∃ job ∈ done, location ∈ job.passed tree) ∧ Tree.Made tree later location
    ∨ (∃ job ∈ done, job.fills tree = some location) ∧ Tree.Filled tree later location

/-- A tree holds what each of some jobs makes of an earlier tree alone, and nothing else has
changed. -/
structure AsAlone (transformer : Transformer) (tree : Tree) (done : List WeaveJob)
    (later : Tree) : Prop where
  current : later.current = tree.current
  changed : ∀ job ∈ done, ∀ location,
    (job.run transformer tree).2.entryAt? location ≠ tree.entryAt? location →
      later.entryAt? location = (job.run transformer tree).2.entryAt? location
  left : ∀ location,
    (∀ job ∈ done, (job.run transformer tree).2.entryAt? location = tree.entryAt? location) →
      later.entryAt? location = tree.entryAt? location

variable {transformer : Transformer} {tree later : Tree} {job other : WeaveJob}
  {done : List WeaveJob} {place : Location}

theorem mem_adds : place ∈ job.adds tree ↔
    (job.fills tree = some place ∨ place ∈ job.passed tree) ∧ tree.entryAt? place = none := by
  rw [adds, List.mem_filter, List.mem_append, Option.mem_toList, decide_eq_true_iff]

/-! ### One job beside another -/

/-- A directory is never made where a job reads that is spared. -/
theorem Spares.input_not_made (spares : Spares tree other job)
    (led : tree.destination? job.input = some place) (made : place ∈ other.passed tree)
    (free : tree.entryAt? place = none) : False :=
  spares.2 place (mem_adds.mpr ⟨.inr made, free⟩)
    (List.mem_append_left _ (Tree.destination_standing led))

/-- Nor is it made where that job is to fill something. -/
theorem KeepsClear.output_not_made (clear : KeepsClear tree other job)
    (led : tree.destination? job.output = some place) (made : place ∈ other.passed tree)
    (free : tree.entryAt? place = none) : False := by
  by_cases own : tree.destination? job.input = some place
  · exact clear.1.input_not_made own made free
  · exact (clear.2 place (fills_iff.mpr ⟨led, by rw [free]; simp, fun _ => own⟩)).2 free made

theorem Touched.grown (touched : Touched tree done later) : Tree.Grown tree later := by
  refine ⟨touched.current, ?_⟩
  intro location
  rcases touched.turned location with same | ⟨-, made⟩ | ⟨-, filled⟩
  · exact .inl same
  · exact .inr (.inl made)
  · exact .inr (.inr filled)

/-- A job is not disturbed by jobs that keep clear of it. -/
theorem Touched.undisturbed (touched : Touched tree done later)
    (clear : ∀ other ∈ done, KeepsClear tree other job) : job.Undisturbed tree later where
  grown := touched.grown
  passed := by
    intro place passed free
    rcases touched.turned place with same | ⟨-, made⟩ | ⟨⟨other, member, fills⟩, -⟩
    · exact .inl (same.trans free)
    · exact .inr made
    · exact absurd passed (((clear other member).1.1 place fills).2.2 free)
  asked := by
    intro place asked free
    rcases touched.turned place with
      same | ⟨⟨other, member, passed⟩, -⟩ | ⟨⟨other, member, fills⟩, -⟩
    · exact same.trans free
    · exact absurd asked ((clear other member).1.2 place (mem_adds.mpr ⟨.inr passed, free⟩))
    · exact absurd asked ((clear other member).1.2 place (mem_adds.mpr ⟨.inl fills, free⟩))
  input := by
    intro place led
    rcases touched.turned place with
      same | ⟨⟨other, member, passed⟩, made⟩ | ⟨⟨other, member, fills⟩, -⟩
    · exact same
    · exact ((clear other member).1.input_not_made led passed made.free).elim
    · exact absurd led ((clear other member).1.1 place fills).1
  output := by
    intro place led
    rcases touched.turned place with
      same | ⟨⟨other, member, passed⟩, made⟩ | ⟨⟨other, member, fills⟩, -⟩
    · exact same
    · exact ((clear other member).output_not_made led passed made.free).elim
    · exact absurd led ((clear other member).1.1 place fills).2.1

/-- Where something has changed, one of the jobs has made a directory or filled its output. -/
theorem AsAlone.touched (alone : AsAlone transformer tree done later)
    (grounded : tree.Grounded) : Touched tree done later := by
  refine ⟨alone.current, ?_⟩
  intro location
  by_cases untouched : ∀ job ∈ done,
      (job.run transformer tree).2.entryAt? location = tree.entryAt? location
  · exact .inl (alone.left location untouched)
  · simp only [not_forall] at untouched
    obtain ⟨job, member, changed⟩ := untouched
    have same := alone.changed job member location changed
    rcases (run_footprint transformer job grounded).turned location with
      left | ⟨passed, made⟩ | ⟨fills, filled⟩
    · exact absurd left changed
    · exact .inr (.inl ⟨⟨job, member, passed⟩, made.free, made.allowed, same.trans made.made⟩)
    · obtain ⟨entry, found, bytes⟩ := filled.after
      exact .inr (.inr ⟨⟨job, member, fills⟩, filled.before, entry, same.trans found, bytes⟩)

theorem AsAlone.none (transformer : Transformer) (tree : Tree) :
    AsAlone transformer tree [] tree :=
  ⟨rfl, by simp, fun _ _ => rfl⟩

/-! ### All jobs -/

/-- One more job does what it would do alone. -/
theorem AsAlone.step (alone : AsAlone transformer tree done later) (grounded : tree.Grounded)
    (apart : ∀ other ∈ done, Apart tree other job) :
    (job.run transformer later).1.withoutText = (job.run transformer tree).1.withoutText
      ∧ AsAlone transformer tree (job :: done) (job.run transformer later).2 := by
  have undisturbed : job.Undisturbed tree later :=
    (alone.touched grounded).undisturbed fun other member => (apart other member).keeps_clear
  obtain ⟨same, alike⟩ := run_alike transformer grounded undisturbed
  have result := run_undisturbed transformer grounded undisturbed
  refine ⟨same, ?_, ?_, ?_⟩
  · rw [alike.currentLater, alone.current]
  · intro other member location changed
    rw [result location]
    rcases List.mem_cons.mp member with rfl | earlier
    · rw [if_neg changed]
    · split
      · exact alone.changed other earlier location changed
      · rename_i changedToo
        -- What both change is a directory that both make.
        obtain ⟨spares, spared⟩ := apart other earlier
        rcases (run_footprint transformer other grounded).turned location with
          left | ⟨passed, made⟩ | ⟨fills, -⟩
        · exact absurd left changed
        · rcases (run_footprint transformer job grounded).turned location with
            left | ⟨-, madeToo⟩ | ⟨fills, -⟩
          · exact absurd left changedToo
          · rw [made.made, madeToo.made]
          · exact absurd passed ((spared.1 location fills).2.2 made.free)
        · rcases (run_footprint transformer job grounded).turned location with
            left | ⟨passed, made⟩ | ⟨fillsToo, -⟩
          · exact absurd left changedToo
          · exact absurd passed ((spares.1 location fills).2.2 made.free)
          · exact absurd (fills_iff.mp fillsToo).1 (spares.1 location fills).2.1
  · intro location untouched
    rw [result location, if_pos (untouched job List.mem_cons_self)]
    exact alone.left location fun other member =>
      untouched other (List.mem_cons_of_mem _ member)

theorem run_all_as_alone {remaining : List WeaveJob}
    (alone : AsAlone transformer tree done later) (grounded : tree.Grounded)
    (apart : ∀ job ∈ remaining, ∀ other ∈ done, Apart tree other job)
    (pairwise : remaining.Pairwise (Apart tree)) :
    (runAll transformer remaining later).1.map FileOutcome.withoutText
        = remaining.map (fun job => (job.run transformer tree).1.withoutText)
      ∧ AsAlone transformer tree (remaining.reverse ++ done)
        (runAll transformer remaining later).2 := by
  induction remaining generalizing done later with
  | nil => exact ⟨rfl, alone⟩
  | cons job jobs induction =>
      obtain ⟨first, others⟩ := List.pairwise_cons.mp pairwise
      obtain ⟨same, next⟩ := alone.step grounded (apart job List.mem_cons_self)
      have apartNext : ∀ later ∈ jobs, ∀ other ∈ job :: done, Apart tree other later := by
        intro later isLater other member
        rcases List.mem_cons.mp member with rfl | earlier
        · exact first later isLater
        · exact apart later (List.mem_cons_of_mem _ isLater) other earlier
      obtain ⟨outcomes, after⟩ := induction next apartNext others
      rw [runAll, List.map_cons, List.map_cons, same, outcomes, List.reverse_cons,
        List.append_assoc]
      exact ⟨rfl, after⟩

instance (tree : Tree) : Std.Symm (Apart tree) := ⟨fun _ _ apart => ⟨apart.2, apart.1⟩⟩

/-- The output of a job holds in the end what the job has left there alone. -/
theorem AsAlone.output (alone : AsAlone transformer tree done later) (grounded : tree.Grounded)
    (pairwise : done.Pairwise (Apart tree)) (member : job ∈ done)
    (led : tree.destination? job.output = some place) :
    later.entryAt? place = (job.run transformer tree).2.entryAt? place := by
  by_cases kept : (job.run transformer tree).2.entryAt? place = tree.entryAt? place
  · rw [kept]
    apply alone.left
    intro other isOther
    by_cases same : other = job
    · rw [same, kept]
    · have clear := (pairwise.forall isOther member same).keeps_clear
      rcases (run_footprint transformer other grounded).turned place with
        left | ⟨passed, made⟩ | ⟨fills, -⟩
      · exact left
      · exact (clear.output_not_made led passed made.free).elim
      · exact absurd led (clear.1.1 place fills).2.1
  · exact alone.changed job member _ kept

/-- The output of the job is the place of its input, and the names around it are there. -/
structure AtHome (job : WeaveJob) (tree : Tree) : Prop where
  place : tree.destination? job.output = tree.destination? job.input
  around : ∀ place ∈ job.passed tree, tree.entryAt? place ≠ none

namespace AtHome

/-- At home nothing is put where nothing is, so two jobs spare each other when they read from
different places. -/
theorem spares (home : job.AtHome tree) (otherHome : other.AtHome tree)
    (apart : tree.LeadApart job.input other.input) : Spares tree job other := by
  have filled : ∀ {place : Location}, job.fills tree = some place →
      tree.destination? job.input = some place ∧ tree.entryAt? place ≠ none := by
    intro place fills
    obtain ⟨led, -, missing⟩ := fills_iff.mp fills
    rw [home.place] at led
    exact ⟨led, fun free => missing free led⟩
  constructor
  · intro place fills
    obtain ⟨led, present⟩ := filled fills
    have elsewhere := apart place led
    exact ⟨elsewhere, by rw [otherHome.place]; exact elsewhere, fun free => absurd free present⟩
  · intro place added
    obtain ⟨fills | passed, free⟩ := mem_adds.mp added
    · exact absurd free (filled fills).2
    · exact absurd free (home.around place passed)

theorem apart (home : job.AtHome tree) (otherHome : other.AtHome tree)
    (apart : tree.LeadApart job.input other.input) : Apart tree job other :=
  ⟨home.spares otherHome apart, otherHome.spares home apart.symm⟩

end AtHome

end WeaveJob

namespace WeaveRequest

variable {request : WeaveRequest} {tree : Tree}

/-! ### The jobs of a directory -/

theorem mem_directory_jobs {job : WeaveJob} (member : job ∈ request.directoryJobs tree) :
    ∃ names, tree.Below request.input names
      ∧ (request.input.inside (String.intercalate "/" names)).extension?
        = some (request.format.getD .binary).extension
      ∧ job = request.jobFor (String.intercalate "/" names) := by
  rw [directoryJobs, List.mem_mergeSort, List.mem_map] at member
  obtain ⟨relative, listed, rfl⟩ := member
  rw [Tree.matchingFiles, List.mem_filter, List.mem_map, decide_eq_true_iff] at listed
  obtain ⟨⟨names, found, rfl⟩, extended⟩ := listed
  exact ⟨names, Tree.below_of_mem found, extended, rfl⟩

/-- What holds of the jobs for any two different files holds of all jobs of a directory. -/
theorem directory_jobs_pairwise {related : WeaveJob → WeaveJob → Prop}
    (symmetric : ∀ {left right}, related left right → related right left)
    (wellFormed : tree.WellFormed)
    (each : ∀ left right, tree.Below request.input left → tree.Below request.input right →
      left ≠ right → related (request.jobFor (String.intercalate "/" left))
        (request.jobFor (String.intercalate "/" right))) :
    (request.directoryJobs tree).Pairwise related := by
  rw [directoryJobs]
  apply (List.Perm.pairwise_iff symmetric (List.mergeSort_perm _ _)).mpr
  rw [Tree.matchingFiles]
  apply List.pairwise_map.mpr
  apply List.Pairwise.filter
  apply List.pairwise_map.mpr
  apply (wellFormed.files_within_nodup Tree.pathLimit request.input).imp_of_mem
  intro left right isLeft isRight different
  exact each left right (Tree.below_of_mem isLeft) (Tree.below_of_mem isRight) different

theorem jobs_of_directory (directory : tree.isDirectory request.input = true) :
    request.jobs tree = .ok (request.directoryJobs tree) := by
  have no_file : tree.isFile request.input = false := by
    rw [Bool.eq_false_iff, ne_eq, Tree.is_file_iff, Tree.is_directory_iff.mp directory]
    simp
  rw [jobs, no_file, directory]
  rfl

/-- The files stay in place, or are written to by another spelling of the same names. -/
def InPlace (request : WeaveRequest) : Prop :=
  (request.output.getD request.input).isAbsolute = request.input.isAbsolute
    ∧ (request.output.getD request.input).moves = request.input.moves

instance (request : WeaveRequest) : Decidable request.InPlace :=
  inferInstanceAs (Decidable (_ ∧ _))

section

variable {names : List String} (wellFormed : tree.WellFormed)
  (below : tree.Below request.input names)

include wellFormed below

theorem input_destination :
    tree.destination? (request.jobFor (String.intercalate "/" names)).input
      = tree.ending? (tree.origin request.input) (request.input.moves ++ names) := by
  rw [Tree.destination?, jobFor, below.inside_origin wellFormed,
    request.input.inside_moves (below.written wellFormed) below.some_name]

/-- Without links below the input, a file is where its names say. -/
theorem input_place {location place : Location}
    (arrives : tree.Arrives (tree.origin request.input) request.input.moves location)
    (no_links : ∀ inner, location <+: inner → tree.linkAt? inner = none)
    (led : tree.destination? (request.jobFor (String.intercalate "/" names)).input = some place) :
    place = location ++ names := by
  rw [input_destination wellFormed below] at led
  exact Tree.ending_names no_links (below.down wellFormed) arrives.ends led

theorem output_destination :
    tree.destination? (request.jobFor (String.intercalate "/" names)).output
      = tree.ending? (tree.origin (request.output.getD request.input))
        ((request.output.getD request.input).moves ++ names) := by
  rw [Tree.destination?, jobFor, below.inside_origin wellFormed,
    (request.output.getD request.input).inside_moves (below.written wellFormed) below.some_name]

theorem passed_eq :
    (request.jobFor (String.intercalate "/" names)).passed tree
      = tree.stops (tree.origin (request.output.getD request.input))
        ((request.output.getD request.input).moves ++ names.dropLast) := by
  rw [WeaveJob.passed, Tree.passed, jobFor, below.inside_origin wellFormed,
    (request.output.getD request.input).inside_moves (below.written wellFormed) below.some_name,
    List.dropLast_append_of_ne_nil below.some_name]

theorem job_at_home (directory : tree.isDirectory request.input = true)
    (in_place : request.InPlace) :
    (request.jobFor (String.intercalate "/" names)).AtHome tree := by
  have origin : tree.origin (request.output.getD request.input) = tree.origin request.input := by
    rw [Tree.origin, Tree.startOf, in_place.1, Tree.origin, Tree.startOf]
  constructor
  · rw [input_destination wellFormed below, output_destination wellFormed below, origin,
      in_place.2]
  · obtain ⟨around, last, -, arrives, -⟩ := below.found wellFormed directory
    rw [passed_eq wellFormed below, origin, in_place.2]
    refine Tree.stops_there ?_ arrives
    intro move member
    rcases List.mem_append.mp member with outer | inner
    · exact request.input.written_moves move outer
    · exact below.written wellFormed move ((List.dropLast_sublist names).subset inner)

end

/-- In place, files that are not the same one are not in each other's way. -/
theorem in_place_apart (wellFormed : tree.WellFormed)
    (directory : tree.isDirectory request.input = true) (in_place : request.InPlace)
    {left right : WeaveJob} (isLeft : left ∈ request.directoryJobs tree)
    (isRight : right ∈ request.directoryJobs tree)
    (apart : tree.LeadApart left.input right.input) : WeaveJob.Apart tree left right := by
  have home : ∀ job ∈ request.directoryJobs tree, job.AtHome tree := by
    intro job member
    obtain ⟨names, below, -, rfl⟩ := mem_directory_jobs member
    exact job_at_home wellFormed below directory in_place
  exact (home left isLeft).apart (home right isRight) apart

/-- When no links are below the input, different files are at different places. -/
theorem lead_apart_without_links (wellFormed : tree.WellFormed)
    (directory : tree.isDirectory request.input = true)
    (no_links : ∀ location, tree.locate request.input = .ok location →
      ∀ inner, location <+: inner → tree.linkAt? inner = none) :
    (request.directoryJobs tree).Pairwise fun left right =>
      tree.LeadApart left.input right.input := by
  apply directory_jobs_pairwise (fun apart => apart.symm) wellFormed
  intro left right isLeft isRight different place leftLed rightLed
  obtain ⟨location, located, arrives⟩ := Tree.arrives_of_is_directory directory
  have leftPlace := input_place wellFormed isLeft arrives (no_links location located) leftLed
  have rightPlace := input_place wellFormed isRight arrives (no_links location located) rightLed
  exact different (List.append_cancel_left (leftPlace.symm.trans rightPlace))

/-! ### An output elsewhere in a tree without links -/

section

variable {names : List String} (wellFormed : tree.WellFormed)
  (below : tree.Below request.input names) (no_links : ∀ place, tree.linkAt? place = none)

include wellFormed below no_links

/-- Without links, what is asked for on the way to a file is there. -/
theorem asked_there (directory : tree.isDirectory request.input = true) :
    ∀ place ∈ (request.jobFor (String.intercalate "/" names)).asked tree,
      tree.entryAt? place ≠ none := by
  have no_link : ∀ stop : Option Location, ¬(stop.bind tree.linkAt?).isSome = true := by
    intro stop
    cases stop with
    | none => simp
    | some place => simp [no_links place]
  intro place member free
  rcases List.mem_append.mp member with input | behind
  · obtain ⟨around, last, isLast, arrives, there⟩ := below.found wellFormed directory
    have written := below.written wellFormed
    have moves := request.input.inside_moves written below.some_name
    have origin := below.inside_origin wellFormed request.input
    obtain ⟨front, rfl⟩ := List.getLast?_eq_some_iff.mp isLast
    rw [List.dropLast_concat] at arrives
    rw [jobFor, origin, moves, ← List.append_assoc] at input
    rcases Tree.free_on_way (written last (by simp)).1
      (wellFormed.grounded.origin_rooted request.input) arrives input free with
      link | ⟨-, -, rfl, -⟩
    · exact no_link _ link
    · exact there free
  · obtain ⟨front, -, link, -⟩ := Tree.mem_behind_links.mp behind
    exact no_link _ link

variable {output : Path} (elsewhere : request.output = some output)

include elsewhere

/-- The files of an output elsewhere are where their names say. -/
theorem output_place {place : Location}
    (led : tree.destination? (request.jobFor (String.intercalate "/" names)).output = some place) :
    ∃ base, tree.destination? output = some base ∧ place = base ++ names := by
  rw [output_destination wellFormed below, elsewhere, Option.getD_some] at led
  cases ends : tree.ending? (tree.origin output) output.moves with
  | none =>
      rw [(Tree.standing_append ends).2] at led
      cases led
  | some base =>
      exact ⟨base, ends, Tree.ending_names (fun inner _ => no_links inner)
        (below.down wellFormed) ends led⟩

/-- What lies around them is told by their names as well. -/
theorem passed_within (down : ∀ move ∈ output.moves, move ≠ "..") {base : Location}
    (isBase : tree.destination? output = some base) :
    ∀ stop ∈ (request.jobFor (String.intercalate "/" names)).passed tree,
      stop <+: base ++ names.dropLast := by
  have moves : ∀ move ∈ output.moves, Path.isMove move = true ∧ move ≠ ".." := fun move member =>
    ⟨(output.written_moves move member).1, down move member⟩
  have here : tree.ending? (tree.origin output) [] = some (tree.origin output) := by
    simp [Tree.ending?, Except.toOption]
  have place : base = tree.origin output ++ output.moves :=
    Tree.ending_names (fun inner _ => no_links inner) moves here isBase
  rw [passed_eq wellFormed below, elsewhere, Option.getD_some, place, List.append_assoc]
  apply Tree.stops_within fun inner _ => no_links inner
  intro move member
  rcases List.mem_append.mp member with outer | inner
  · exact moves move outer
  · exact below.down wellFormed move ((List.dropLast_sublist names).subset inner)

end

/-- In a tree without links, an output that goes down to where neither the input nor anything around
it or below it is has its files out of each other's way. -/
theorem separate_output_apart {output : Path} (wellFormed : tree.WellFormed)
    (directory : tree.isDirectory request.input = true) (elsewhere : request.output = some output)
    (no_links : ∀ place, tree.linkAt? place = none) (down : ∀ move ∈ output.moves, move ≠ "..")
    (separate : ∀ location place, tree.locate request.input = .ok location →
      tree.destination? output = some place → ¬location <+: place ∧ ¬place <+: location) :
    (request.directoryJobs tree).Pairwise (WeaveJob.Apart tree) := by
  obtain ⟨location, located, arrives⟩ := Tree.arrives_of_is_directory directory
  have spares : ∀ left right, tree.Below request.input left → tree.Below request.input right →
      left ≠ right → WeaveJob.Spares tree (request.jobFor (String.intercalate "/" left))
        (request.jobFor (String.intercalate "/" right)) := by
    intro left right isLeft isRight different
    constructor
    · intro place fills
      obtain ⟨base, isBase, rfl⟩ :=
        output_place wellFormed isLeft no_links elsewhere (WeaveJob.fills_iff.mp fills).1
      obtain ⟨not_below, not_around⟩ := separate location base located isBase
      refine ⟨?_, ?_, ?_⟩
      · intro led
        have same := input_place wellFormed isRight arrives (fun inner _ => no_links inner) led
        rcases List.prefix_or_prefix_of_prefix (List.prefix_append base left)
          (same ▸ List.prefix_append location right) with around | below
        · exact not_around around
        · exact not_below below
      · intro led
        obtain ⟨other, isOther, same⟩ :=
          output_place wellFormed isRight no_links elsewhere led
        rw [isBase] at isOther
        rw [← Option.some.inj isOther] at same
        exact different (List.append_cancel_left same)
      · intro _ passed
        have around := passed_within wellFormed isRight no_links elsewhere down isBase _ passed
        exact isLeft.not_around isRight ((List.prefix_append_right_inj base).mp around)
    · intro place added asked
      exact asked_there wellFormed isRight no_links directory place asked
        (WeaveJob.mem_adds.mp added).2
  apply directory_jobs_pairwise (fun apart => ⟨apart.2, apart.1⟩) wellFormed
  intro left right isLeft isRight different
  exact ⟨spares left right isLeft isRight different,
    spares right left isRight isLeft different.symm⟩

/-- For jobs that are not in each other's way every order comes to the same. Each file is
reported as if it were the only one, apart from the text of a failure. What a job changes
alone is changed in the same way, and nothing else is. An output that holds a file is what has
become of the bytes that its input held at first. Jobs are not in each other's way when the files
stay in place and none of them is found twice, as is so without links below the input. Nor are they,
in a tree without links, when the output lies neither below the input nor around it. -/
theorem files_are_woven_independently (request : WeaveRequest) (tree : Tree)
    (wellFormed : tree.WellFormed) (directory : tree.isDirectory request.input = true)
    (jobs : List WeaveJob) (planned : request.jobs tree = .ok jobs) :
    (∀ order, order.Perm jobs → jobs.Pairwise (WeaveJob.Apart tree) →
      (WeaveJob.runAll request.transformer order tree).1.map FileOutcome.withoutText
          = order.map (fun job => (job.run request.transformer tree).1.withoutText)
        ∧ WeaveJob.AsAlone request.transformer tree order
          (WeaveJob.runAll request.transformer order tree).2
        ∧ ∀ job ∈ order, ∀ bytes report woven,
          tree.read job.input = .ok bytes →
          request.transformer.transform bytes = .ok (report, woven) →
          (job.run request.transformer tree).1.result.word ≠ "failed" →
          ∃ place, tree.destination? job.output = some place
            ∧ ((tree.entryAt? place = none ∨ ∃ old, tree.entryAt? place = some (.file old)) →
              (tree.destination? job.input = some place → job.output = job.input) →
                (WeaveJob.runAll request.transformer order tree).2.entryAt? place
                  = some (.file (woven.getD bytes))))
      ∧ (request.InPlace → jobs.Pairwise (fun left right => tree.LeadApart left.input right.input) →
        jobs.Pairwise (WeaveJob.Apart tree))
      ∧ (request.InPlace → (∀ location, tree.locate request.input = .ok location →
          ∀ inner, location <+: inner → tree.linkAt? inner = none) →
        jobs.Pairwise (WeaveJob.Apart tree))
      ∧ ∀ output, request.output = some output → (∀ place, tree.linkAt? place = none) →
        (∀ move ∈ output.moves, move ≠ "..") →
        (∀ location place, tree.locate request.input = .ok location →
          tree.destination? output = some place → ¬location <+: place ∧ ¬place <+: location) →
        jobs.Pairwise (WeaveJob.Apart tree) := by
  rw [jobs_of_directory directory, Except.ok.injEq] at planned
  subst planned
  have grounded := wellFormed.grounded
  have in_place : request.InPlace →
      (request.directoryJobs tree).Pairwise (fun left right =>
        tree.LeadApart left.input right.input) →
      (request.directoryJobs tree).Pairwise (WeaveJob.Apart tree) := by
    intro inPlace apart
    apply apart.imp_of_mem
    intro left right isLeft isRight
    exact in_place_apart wellFormed directory inPlace isLeft isRight
  refine ⟨?_, in_place, ?_, ?_⟩
  · intro order same apart
    have pairwise : order.Pairwise (WeaveJob.Apart tree) :=
      (same.pairwise_iff fun apart => ⟨apart.2, apart.1⟩).mpr apart
    obtain ⟨outcomes, after⟩ := WeaveJob.run_all_as_alone (.none request.transformer tree)
      grounded (by simp) pairwise
    rw [List.append_nil] at after
    have alone : WeaveJob.AsAlone request.transformer tree order
        (WeaveJob.runAll request.transformer order tree).2 :=
      ⟨after.current, fun job member => after.changed job (List.mem_reverse.mpr member),
        fun location untouched => after.left location fun job member =>
          untouched job (List.mem_reverse.mp member)⟩
    refine ⟨outcomes, alone, ?_⟩
    intro job member bytes report woven reading transformed done
    obtain ⟨place, led, filled⟩ := WeaveJob.run_fills grounded reading transformed done
    refine ⟨place, led, fun plain own => ?_⟩
    rw [alone.output grounded pairwise member led]
    exact filled plain own
  · intro inPlace no_links
    exact in_place inPlace (lead_apart_without_links wellFormed directory no_links)
  · intro output elsewhere no_links down separate
    exact separate_output_apart wellFormed directory elsewhere no_links down separate

/-! ### An output inside the input -/

/-- A class with a call to guard. -/
def stopperClass : ClassFile where
  name := "app/Stop"
  superName := none
  methods :=
    [⟨"stop", "()V", 0x0009,
      some
        { maxStack := 1
          maxLocals := 0
          instructions := [.plain 4 [], .invoke Operation.runtimeExit.signature, .plain 177 []]
          handlers := []
          frames := [] }⟩]
  attributes := []

def idleClass : ClassFile where
  name := "app/Idle"
  superName := none
  methods := []
  attributes := []

/-- A directory with one class, and another class in a directory below it. -/
def nestedTree : Tree where
  current := ["w"]
  entries :=
    [(["w"], .directory), (["w", "d"], .directory),
     (["w", "d", "0.cgc"], .file (Codec.binary.bytesOf stopperClass)),
     (["w", "d", "1"], .directory),
     (["w", "d", "1", "0.cgc"], .file (Codec.binary.bytesOf idleClass))]

def nestedRequest (output : String) : WeaveRequest where
  input := ⟨"d"⟩
  output := some ⟨output⟩
  format := none
  dispatch := .allRules
  placement := .beforeCall

def nestedJob (output relative : String) : WeaveJob :=
  ⟨Path.inside ⟨"d"⟩ relative, Path.inside ⟨output⟩ relative⟩

def outerJob (output : String) : WeaveJob := nestedJob output "0.cgc"

def innerJob (output : String) : WeaveJob := nestedJob output "1/0.cgc"

theorem nested_jobs (output : String) :
    (nestedRequest output).jobs nestedTree = .ok [outerJob output, innerJob output] := by
  have directory : nestedTree.isDirectory ⟨"d"⟩ = true := by decide +kernel
  have found : nestedTree.matchingFiles ⟨"d"⟩ "cgc" = ["0.cgc", "1/0.cgc"] := by decide +kernel
  have listed : [outerJob output, innerJob output].mergeSort
        (fun left right => left.input.atMost right.input)
      = [outerJob output, innerJob output] := by
    apply List.mergeSort_of_pairwise
    rw [List.pairwise_pair]
    show (Path.inside ⟨"d"⟩ "0.cgc").atMost (Path.inside ⟨"d"⟩ "1/0.cgc") = true
    decide +kernel
  rw [jobs_of_directory directory, directoryJobs]
  change Except.ok (((nestedTree.matchingFiles ⟨"d"⟩ "cgc").map _).mergeSort _) = _
  rw [found]
  exact congrArg Except.ok listed

theorem nested_tree_well_formed : nestedTree.WellFormed where
  once := by decide +kernel
  inside := by decide +kernel
  named := by decide +kernel
  standing := by decide +kernel

theorem separate_output_in_any_order :
    nestedTree.WellFormed ∧ nestedTree.isDirectory (nestedRequest "e").input = true ∧
      (nestedRequest "e").jobs nestedTree = .ok [outerJob "e", innerJob "e"] ∧
      [outerJob "e", innerJob "e"].Pairwise (WeaveJob.Apart nestedTree) ∧
      [innerJob "e", outerJob "e"].Perm [outerJob "e", innerJob "e"] ∧
      WeaveJob.AsAlone (nestedRequest "e").transformer nestedTree [innerJob "e", outerJob "e"]
        (WeaveJob.runAll (nestedRequest "e").transformer [innerJob "e", outerJob "e"]
          nestedTree).2 := by
  have directory : nestedTree.isDirectory (nestedRequest "e").input = true := by decide +kernel
  have same : [innerJob "e", outerJob "e"].Perm [outerJob "e", innerJob "e"] :=
    List.Perm.swap _ _ _
  have independent := files_are_woven_independently (nestedRequest "e") nestedTree
    nested_tree_well_formed directory _ (nested_jobs "e")
  have apart : [outerJob "e", innerJob "e"].Pairwise (WeaveJob.Apart nestedTree) := by
    refine independent.2.2.2 ⟨"e"⟩ rfl (Tree.no_links (by decide +kernel)) (by decide +kernel) ?_
    intro location place located led
    have input : nestedTree.locate ⟨"d"⟩ = .ok ["w", "d"] := by decide +kernel
    have output : nestedTree.destination? ⟨"e"⟩ = some ["w", "e"] := by decide +kernel
    obtain rfl := Except.ok.inj (input.symm.trans located)
    obtain rfl := Option.some.inj (output.symm.trans led)
    decide
  exact ⟨nested_tree_well_formed, directory, nested_jobs "e", apart, same,
    (independent.1 _ same apart).2.1⟩

/-- With an output inside the input, the job for the outer file writes to the input of the job
for the inner one. Whether that one weaves what it held at first depends on the order. -/
theorem order_counts_for_output_inside_input :
    (nestedRequest "d/1").jobs nestedTree = .ok [outerJob "d/1", innerJob "d/1"] ∧
      (WeaveJob.runAll (nestedRequest "d/1").transformer [innerJob "d/1", outerJob "d/1"]
          nestedTree).2.entryAt? ["w", "d", "1", "1", "0.cgc"]
        = some (.file (Codec.binary.bytesOf idleClass)) ∧
      (WeaveJob.runAll (nestedRequest "d/1").transformer [outerJob "d/1", innerJob "d/1"]
          nestedTree).2.entryAt? ["w", "d", "1", "1", "0.cgc"]
        ≠ some (.file (Codec.binary.bytesOf idleClass)) := by
  exact ⟨nested_jobs "d/1", by decide +kernel, by decide +kernel⟩

end WeaveRequest

end AccessWeave
