import AccessWeave.Weave.Guard
import Mathlib.Data.List.Induction

/-!
# Runs of guard pairs

A run of guard pairs is determined by its keys. The searches for an existing guard walk such
a run forwards from the start of a stream or backwards from a call; here they are said as
ways to cut the stream into a run and the rest. Nothing is claimed about when a guard runs.
-/

namespace AccessWeave

open Instruction (loadConst invoke)

def guardPair (key : String) : List Instruction := [loadConst (.string key), invoke guardEntry]

/-- Guard pairs one after another. -/
def guardRun (keys : List String) : List Instruction := keys.flatMap guardPair

theorem guard_sequence_eq_run (operation : Operation) :
    Instruction.guardSequence operation = guardRun [operation.key] := rfl

@[simp] theorem guard_run_nil : guardRun [] = [] := rfl

@[simp] theorem guard_run_cons (key : String) (keys : List String) :
    guardRun (key :: keys) = loadConst (.string key) :: invoke guardEntry :: guardRun keys := rfl

@[simp] theorem guard_run_append (left right : List String) :
    guardRun (left ++ right) = guardRun left ++ guardRun right :=
  List.flatMap_append

theorem length_guard_run (keys : List String) : (guardRun keys).length = 2 * keys.length := by
  induction keys with
  | nil => rfl
  | cons key keys induction =>
      rw [guard_run_cons, List.length_cons, List.length_cons, induction, List.length_cons]
      omega

theorem pair_key_some_iff {first second : Instruction} {key : String} :
    pairKey? first second = some key ↔
      first = loadConst (.string key) ∧ second = invoke guardEntry := by
  constructor
  · intro found
    unfold pairKey? at found
    split at found
    · next text target =>
        split at found
        · next entry =>
            cases Option.some.inj found
            exact ⟨rfl, by rw [entry]⟩
        · cases found
    · cases found
  · rintro ⟨rfl, rfl⟩
    simp [pairKey?]

/-- Nothing in a run is a label, a jump or a call to anything but the guard. -/
theorem mem_guard_run {instruction : Instruction} {keys : List String}
    (member : instruction ∈ guardRun keys) :
    (∃ key, instruction = loadConst (.string key)) ∨ instruction = invoke guardEntry := by
  rcases List.mem_flatMap.mp member with ⟨key, _, inPair⟩
  rcases List.mem_cons.mp inPair with literal | call
  · exact Or.inl ⟨key, literal⟩
  · exact Or.inr (List.mem_singleton.mp call)

theorem guard_run_no_label {instruction : Instruction} {keys : List String}
    (member : instruction ∈ guardRun keys) : instruction.isLabel = false := by
  rcases mem_guard_run member with ⟨key, rfl⟩ | rfl <;> rfl

theorem guard_run_no_target {instruction : Instruction} {keys : List String}
    (member : instruction ∈ guardRun keys) : instruction.branchTargets = [] := by
  rcases mem_guard_run member with ⟨key, rfl⟩ | rfl <;> rfl

theorem guard_run_no_call {instruction : Instruction} {keys : List String}
    {signature : Signature} (foreign : signature ≠ guardEntry)
    (member : instruction ∈ guardRun keys) : instruction ≠ invoke signature := by
  rcases mem_guard_run member with ⟨key, rfl⟩ | rfl
  · intro same
    cases same
  · intro same
    cases same
    exact foreign rfl

/-- The search from the start finds exactly the keys of a run that begins the stream. -/
theorem entry_run_holds_iff {key : String} {stream : List Instruction} :
    entryRunHolds key stream = true ↔
      ∃ keys rest, stream = guardRun keys ++ rest ∧ key ∈ keys := by
  constructor
  · intro holds
    fun_induction entryRunHolds key stream with
    | case1 first second rest found pair induction =>
        rcases pair_key_some_iff.mp pair with ⟨rfl, rfl⟩
        rcases (Bool.or_eq_true _ _).mp holds with same | later
        · exact ⟨[found], rest, rfl, by simp [of_decide_eq_true same]⟩
        · rcases induction later with ⟨keys, suffix, rfl, member⟩
          exact ⟨found :: keys, suffix, rfl, List.mem_cons_of_mem _ member⟩
    | case2 => cases holds
    | case3 => cases holds
  · rintro ⟨keys, rest, rfl, member⟩
    induction keys with
    | nil => cases member
    | cons found keys induction =>
        have pair : pairKey? (loadConst (.string found)) (invoke guardEntry) = some found :=
          pair_key_some_iff.mpr ⟨rfl, rfl⟩
        simp only [guard_run_cons, List.cons_append, entryRunHolds, pair]
        rcases List.mem_cons.mp member with same | later
        · simp [same]
        · simp [induction later]

/-- The search backwards finds exactly the keys of a run that ends the stream. -/
theorem closing_run_holds_iff {key : String} {stream : List Instruction} :
    closingRunHolds key stream.reverse = true ↔
      ∃ before keys, stream = before ++ guardRun keys ∧ key ∈ keys := by
  constructor
  · intro holds
    suffices reversed : ∀ backwards, closingRunHolds key backwards = true →
        ∃ before keys, backwards.reverse = before ++ guardRun keys ∧ key ∈ keys by
      simpa using reversed stream.reverse holds
    intro backwards holds
    fun_induction closingRunHolds key backwards with
    | case1 second first rest found pair induction =>
        rcases pair_key_some_iff.mp pair with ⟨rfl, rfl⟩
        rcases (Bool.or_eq_true _ _).mp holds with same | earlier
        · exact ⟨rest.reverse, [found], by simp, by simp [of_decide_eq_true same]⟩
        · rcases induction earlier with ⟨before, keys, split, member⟩
          refine ⟨before, keys ++ [found], ?_, List.mem_append_left _ member⟩
          simp [split]
    | case2 => cases holds
    | case3 => cases holds
  · rintro ⟨before, keys, rfl, member⟩
    induction keys using List.reverseRecOn with
    | nil => cases member
    | append_singleton keys found induction =>
        have pair : pairKey? (loadConst (.string found)) (invoke guardEntry) = some found :=
          pair_key_some_iff.mpr ⟨rfl, rfl⟩
        have backwards : (before ++ guardRun (keys ++ [found])).reverse =
            invoke guardEntry :: loadConst (.string found) ::
              (before ++ guardRun keys).reverse := by
          simp
        rw [backwards]
        simp only [closingRunHolds, pair]
        rcases List.mem_append.mp member with earlier | same
        · rw [induction earlier, Bool.or_true]
        · simp [List.mem_singleton.mp same]

end AccessWeave
