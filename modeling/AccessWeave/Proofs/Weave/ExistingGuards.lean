import AccessWeave.Proofs.Weave.GuardRun

/-!
# Where a guard is found

The weaver finds a guard in two places only. Told by indices, these are neighbouring pairs that
are all guard pairs, from the start of the stream up to a guard of the operation, or from such a
guard up to the call. The second place is searched backwards, a pair at a time. A round looks at a
part of the stream that need not exist; it does as long as the search began inside the stream.
-/

namespace AccessWeave

open Instruction (loadConst invoke)

/-- A text literal with the key, and right behind it the call that asks. -/
def GuardPairAt (stream : List Instruction) (index : Nat) (key : String) : Prop :=
  stream[index]? = some (loadConst (.string key)) ∧ stream[index + 1]? = some (invoke guardEntry)

/-- The neighbouring pairs from an index on, as many as counted, are all guard pairs. -/
def GuardPairs (stream : List Instruction) (start count : Nat) : Prop :=
  ∀ pair < count, ∃ key, GuardPairAt stream (start + 2 * pair) key

/-! ## Pairs by index and runs -/

/-- What ends a front part of a list begins as many places before its end as it is long. -/
theorem suffix_of_take_iff {Item : Type} {items part : List Item} {stop : Nat} :
    part <:+ items.take stop ↔
      part.length ≤ min stop items.length ∧
        part <+: items.drop (min stop items.length - part.length) := by
  have dropped (bound : part.length ≤ min stop items.length) :
      (items.take stop).drop ((items.take stop).length - part.length) =
        (items.drop (min stop items.length - part.length)).take part.length := by
    rw [List.length_take, List.take_eq_take_min, List.drop_take, Nat.sub_sub_self bound]
  constructor
  · intro ends
    have bound : part.length ≤ min stop items.length := by
      rw [← List.length_take]
      exact ends.length_le
    refine ⟨bound, List.prefix_iff_eq_take.mpr ?_⟩
    rw [← dropped bound]
    exact List.suffix_iff_eq_drop.mp ends
  · rintro ⟨bound, begins⟩
    apply List.suffix_iff_eq_drop.mpr
    rw [dropped bound]
    exact List.prefix_iff_eq_take.mp begins

section Pairs

variable {stream : List Instruction} {start count first : Nat} {key other : String}

theorem GuardPairAt.same_key (one : GuardPairAt stream start key)
    (two : GuardPairAt stream start other) : key = other := by
  cases one.1.symm.trans two.1
  rfl

theorem guard_pair_at_iff :
    GuardPairAt stream start key ↔ guardRun [key] <+: stream.drop start := by
  constructor
  · rintro ⟨literal, call⟩
    have cut : stream.drop start = guardRun [key] ++ stream.drop (start + 2) := by
      rw [List.drop_eq_getElem?_toList_append, literal, List.drop_eq_getElem?_toList_append, call]
      rfl
    exact ⟨stream.drop (start + 2), cut.symm⟩
  · rintro ⟨rest, split⟩
    have literal : (stream.drop start)[0]? = some (loadConst (.string key)) := by
      rw [← split]
      rfl
    have call : (stream.drop start)[1]? = some (invoke guardEntry) := by
      rw [← split]
      rfl
    rw [List.getElem?_drop] at literal call
    exact ⟨literal, call⟩

theorem guard_pairs_succ_iff :
    GuardPairs stream start (count + 1) ↔
      (∃ key, GuardPairAt stream start key) ∧ GuardPairs stream (start + 2) count := by
  have next (pair : Nat) : start + 2 * (pair + 1) = start + 2 + 2 * pair := by omega
  constructor
  · intro pairs
    refine ⟨pairs 0 (Nat.succ_pos count), fun pair bound => ?_⟩
    rw [← next]
    exact pairs (pair + 1) (Nat.succ_lt_succ bound)
  · rintro ⟨head, later⟩ pair bound
    cases pair with
    | zero => exact head
    | succ pair =>
        rw [next]
        exact later pair (Nat.lt_of_succ_lt_succ bound)

/-- Pairs that are all guard pairs make up a run with as many keys. -/
theorem guard_pairs_iff_run :
    GuardPairs stream start count ↔
      ∃ keys, keys.length = count ∧ guardRun keys <+: stream.drop start := by
  induction count generalizing start with
  | zero =>
      constructor
      · exact fun _ => ⟨[], rfl, List.nil_prefix⟩
      · rintro - pair bound
        exact (Nat.not_lt_zero pair bound).elim
  | succ count induction =>
      rw [guard_pairs_succ_iff, induction, ← List.drop_drop]
      constructor
      · rintro ⟨⟨key, head⟩, keys, counted, rest, later⟩
        rcases guard_pair_at_iff.mp head with ⟨behind, split⟩
        rw [← split] at later ⊢
        refine ⟨key :: keys, by rw [List.length_cons, counted], rest, ?_⟩
        exact congrArg (guardRun [key] ++ ·) later
      · rintro ⟨keys, counted, rest, split⟩
        cases keys with
        | nil => cases counted
        | cons key keys =>
            refine ⟨⟨key, guard_pair_at_iff.mpr ⟨guardRun keys ++ rest, split⟩⟩, keys,
              Nat.succ.inj counted, rest, ?_⟩
            rw [← split]
            rfl

/-- A key in a run stands where the keys in front of it end. -/
theorem guard_pair_in_run (earlier : List String) {later : List String}
    (run : guardRun (earlier ++ key :: later) <+: stream.drop start) :
    GuardPairAt stream (start + 2 * earlier.length) key := by
  rcases run with ⟨rest, split⟩
  apply guard_pair_at_iff.mpr
  refine ⟨guardRun later ++ rest, ?_⟩
  rw [← List.drop_drop, ← split, guard_run_append, List.append_assoc, ← length_guard_run,
    List.drop_left]
  rfl

/-- The run at the start holds a key when the pairs up to one with that key are guard pairs. -/
theorem entry_run_holds_iff_pairs :
    entryRunHolds key stream = true ↔
      ∃ count, 1 ≤ count ∧ GuardPairs stream 0 count ∧
        GuardPairAt stream (2 * (count - 1)) key := by
  rw [entry_run_holds_iff]
  constructor
  · rintro ⟨keys, rest, split, member⟩
    rcases List.append_of_mem member with ⟨earlier, later, rfl⟩
    have last : GuardPairAt stream (0 + 2 * earlier.length) key :=
      guard_pair_in_run earlier ⟨rest, split.symm⟩
    rw [Nat.zero_add] at last
    refine ⟨earlier.length + 1, Nat.le_add_left 1 _, guard_pairs_iff_run.mpr ?_, last⟩
    exact ⟨earlier ++ [key], List.length_append, guardRun later ++ rest, by simp [split]⟩
  · rintro ⟨count, some, pairs, last⟩
    rcases guard_pairs_iff_run.mp pairs with ⟨keys, counted, rest, split⟩
    rcases List.eq_nil_or_concat keys with rfl | ⟨earlier, final, rfl⟩
    · rw [List.length_nil] at counted
      omega
    rw [List.length_concat] at counted
    rw [List.concat_eq_append] at split
    have found := guard_pair_in_run earlier ⟨rest, split⟩
    rw [Nat.zero_add, show earlier.length = count - 1 by omega] at found
    rw [last.same_key found]
    exact ⟨earlier ++ [final], rest, split.symm, List.mem_append_right _ List.mem_cons_self⟩

/-- The run in front of a call holds a key when the pairs from one with that key up to the call
are guard pairs. -/
theorem closing_run_holds_iff_pairs :
    closingRunHolds key (stream.take first).reverse = true ↔
      ∃ count, 1 ≤ count ∧ 2 * count ≤ min first stream.length ∧
        GuardPairs stream (min first stream.length - 2 * count) count ∧
        GuardPairAt stream (min first stream.length - 2 * count) key := by
  rw [closing_run_holds_iff]
  constructor
  · rintro ⟨before, keys, split, member⟩
    rcases List.append_of_mem member with ⟨earlier, later, rfl⟩
    have ends : guardRun (key :: later) <:+ stream.take first :=
      ⟨before ++ guardRun earlier, by rw [split, guard_run_append, List.append_assoc]⟩
    rcases suffix_of_take_iff.mp ends with ⟨room, run⟩
    rw [length_guard_run] at room run
    exact ⟨later.length + 1, Nat.le_add_left 1 _, room,
      guard_pairs_iff_run.mpr ⟨key :: later, rfl, run⟩, guard_pair_in_run [] run⟩
  · rintro ⟨count, some, room, pairs, earliest⟩
    rcases guard_pairs_iff_run.mp pairs with ⟨keys, rfl, run⟩
    rw [← length_guard_run] at room run earliest
    rcases suffix_of_take_iff.mpr ⟨room, run⟩ with ⟨before, split⟩
    refine ⟨before, keys, split.symm, ?_⟩
    cases keys with
    | nil => exact (Nat.not_succ_le_zero 0 some).elim
    | cons head tail =>
        rw [earliest.same_key (guard_pair_in_run [] run)]
        exact List.mem_cons_self

end Pairs

/-! ## The search backwards, round by round -/

namespace ClosingSearch

/-- What a round of the search comes to. -/
inductive Round
  | answered (holds : Bool)
  /-- The search goes on in front of an index. -/
  | onward (index : Nat)
  /-- The part that the round looks at is not in the stream. -/
  | outOfRange

/-- The part of a stream from one index up to another. -/
def slice? (stream : List Instruction) (start stop : Nat) : Option (List Instruction) :=
  if start ≤ stop ∧ stop ≤ stream.length then some (stream.extract start stop) else none

def sliceKey? : List Instruction → Option String
  | [first, second] => pairKey? first second
  | _ => none

/-- Looks at the two instructions right before an index. -/
def round (stream : List Instruction) (key : String) (index : Nat) : Round :=
  if 2 ≤ index then
    match slice? stream (index - 2) index with
    | some pair =>
        match sliceKey? pair with
        | some found => if found = key then .answered true else .onward (index - 2)
        | none => .answered false
    | none => .outOfRange
  else .answered false

/-- From an index, the search ends after a number of rounds with an answer, or without one when
its last round is out of range. -/
inductive Ends (stream : List Instruction) (key : String) : Nat → Nat → Option Bool → Prop
  | answered {index : Nat} {holds : Bool} (last : round stream key index = .answered holds) :
      Ends stream key index 1 (some holds)
  | outOfRange {index : Nat} (last : round stream key index = .outOfRange) :
      Ends stream key index 1 none
  | onward {index next rounds : Nat} {outcome : Option Bool}
      (head : round stream key index = .onward next)
      (rest : Ends stream key next rounds outcome) : Ends stream key index (rounds + 1) outcome

variable {stream : List Instruction} {key : String} {index : Nat}

theorem Ends.unique {rounds taken : Nat} {outcome other : Option Bool}
    (one : Ends stream key index rounds outcome) (two : Ends stream key index taken other) :
    rounds = taken ∧ outcome = other := by
  induction one generalizing taken with
  | answered last =>
      cases two with
      | answered same =>
          cases last.symm.trans same
          exact ⟨rfl, rfl⟩
      | outOfRange different => cases last.symm.trans different
      | onward different => cases last.symm.trans different
  | outOfRange last =>
      cases two with
      | answered different => cases last.symm.trans different
      | outOfRange => exact ⟨rfl, rfl⟩
      | onward different => cases last.symm.trans different
  | onward head _ induction =>
      cases two with
      | answered different => cases head.symm.trans different
      | outOfRange different => cases head.symm.trans different
      | onward same rest =>
          cases head.symm.trans same
          rcases induction rest with ⟨rfl, rfl⟩
          exact ⟨rfl, rfl⟩

theorem cut_before_pair (inside : index + 2 ≤ stream.length) :
    ∃ before first second rest,
      stream = before ++ first :: second :: rest ∧ before.length = index := by
  refine ⟨stream.take index, stream[index], stream[index + 1], stream.drop (index + 2), ?_, ?_⟩
  · rw [List.getElem_cons_drop, List.getElem_cons_drop, List.take_append_drop]
  · exact List.length_take_of_le (by omega)

/-- Inside the stream, a round answers as the run in front of the index does, or goes on in front
of a pair without which the run answers the same. -/
theorem round_inside (inside : index ≤ stream.length) :
    round stream key index = .answered (closingRunHolds key (stream.take index).reverse) ∨
      ∃ next, next + 2 = index ∧ round stream key index = .onward next ∧
        closingRunHolds key (stream.take index).reverse =
          closingRunHolds key (stream.take next).reverse := by
  match index with
  | 0 => exact Or.inl rfl
  | 1 =>
      left
      cases stream <;> rfl
  | next + 2 =>
      rcases cut_before_pair inside with ⟨before, first, second, rest, rfl, rfl⟩
      have pair : slice? (before ++ first :: second :: rest) before.length (before.length + 2) =
          some [first, second] := by
        simp [slice?]
      have backwards : ((before ++ first :: second :: rest).take (before.length + 2)).reverse =
          second :: first :: before.reverse := by
        rw [List.take_length_add_append]
        simp
      rw [backwards]
      cases looked : pairKey? first second with
      | none => exact Or.inl (by simp [round, pair, sliceKey?, closingRunHolds, looked])
      | some found =>
          by_cases same : found = key
          · exact Or.inl (by simp [round, pair, sliceKey?, closingRunHolds, looked, same])
          · refine Or.inr ⟨before.length, rfl, ?_, ?_⟩
            · simp [round, pair, sliceKey?, looked, same]
            · simp [closingRunHolds, looked, same]

/-- A search that begins inside the stream stays there and answers as the run does. -/
theorem ends_inside (inside : index ≤ stream.length) :
    ∃ rounds ≤ index / 2 + 1,
      Ends stream key index rounds (some (closingRunHolds key (stream.take index).reverse)) := by
  induction index using Nat.strongRecOn with
  | ind index induction =>
      rcases round_inside inside with answered | ⟨next, rfl, onward, same⟩
      · exact ⟨1, Nat.le_add_left 1 _, .answered answered⟩
      · rcases induction next (by omega) (by omega) with ⟨rounds, bound, rest⟩
        rw [same]
        exact ⟨rounds + 1, by omega, .onward onward rest⟩

/-- A search leaves the stream when it begins behind its end, and then in the first round. -/
theorem leaves_stream_iff :
    (∃ rounds, Ends stream key index rounds none) ↔ 2 ≤ index ∧ stream.length < index := by
  constructor
  · rintro ⟨rounds, left⟩
    by_contra stays
    have answers : ∃ rounds holds, Ends stream key index rounds (some holds) := by
      by_cases inside : index ≤ stream.length
      · rcases ends_inside inside with ⟨rounds, _, ends⟩
        exact ⟨rounds, _, ends⟩
      · exact ⟨1, false, .answered (if_neg (by omega))⟩
    rcases answers with ⟨_, _, ends⟩
    cases (left.unique ends).2
  · rintro ⟨some, behind⟩
    refine ⟨1, .outOfRange ?_⟩
    rw [round, if_pos some, slice?, if_neg (by omega)]

end ClosingSearch

/-- A guard of the operation is found exactly when one of the guard pairs that begin the stream
without a gap carries its key, or, where the first call dominates, one of those that end without a
gap at the call, or at the end of a stream that ends before the call. The search backwards has one
end, which is an answer and comes after at most one round more than there are pairs in front of the
call; so every part it looks at is in the stream, which it leaves only from behind the end. -/
theorem existing_guards_are_found_exactly (stream : List Instruction) (operation : Operation)
    (first : Nat) (firstDominates : Bool) :
    (protects stream operation first firstDominates = true ↔
      (∃ count, 1 ≤ count ∧ GuardPairs stream 0 count ∧
        GuardPairAt stream (2 * (count - 1)) operation.key) ∨
      (firstDominates = true ∧ ∃ count, 1 ≤ count ∧ 2 * count ≤ min first stream.length ∧
        GuardPairs stream (min first stream.length - 2 * count) count ∧
        GuardPairAt stream (min first stream.length - 2 * count) operation.key)) ∧
    (∃ rounds holds, rounds ≤ min first stream.length / 2 + 1 ∧
      (∀ taken outcome,
        ClosingSearch.Ends stream operation.key (min first stream.length) taken outcome ↔
          taken = rounds ∧ outcome = some holds) ∧
      protects stream operation first firstDominates =
        (entryRunHolds operation.key stream || (firstDominates && holds))) ∧
    ∀ index, (∃ rounds, ClosingSearch.Ends stream operation.key index rounds none) ↔
      2 ≤ index ∧ stream.length < index := by
  refine ⟨?_, ?_, fun index => ClosingSearch.leaves_stream_iff⟩
  · rw [protects, Bool.or_eq_true, Bool.and_eq_true, entry_run_holds_iff_pairs,
      closing_run_holds_iff_pairs]
  · obtain ⟨rounds, bound, ends⟩ : ∃ rounds ≤ min first stream.length / 2 + 1,
        ClosingSearch.Ends stream operation.key (min first stream.length) rounds
          (some (closingRunHolds operation.key (stream.take (min first stream.length)).reverse)) :=
      ClosingSearch.ends_inside (Nat.min_le_right first stream.length)
    rw [← List.take_eq_take_min] at ends
    refine ⟨rounds, closingRunHolds operation.key (stream.take first).reverse, bound, ?_, rfl⟩
    intro taken outcome
    constructor
    · exact fun other => other.unique ends
    · rintro ⟨rfl, rfl⟩
      exact ends

/-- A key of no operation carries a run on, and in the middle of a pair no run ends. -/
example :
    let stream := .plain 0x04 [] :: guardRun ["Runtime.exit", "Unknown.key"]
    [5, 1000, 4, 0].map (protects stream .runtimeExit · true) = [true, true, false, false] ∧
      protects stream .runtimeExit 5 false = false := by
  decide

end AccessWeave
