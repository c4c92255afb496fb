import AccessWeave.Weave.Stream
import Mathlib.Data.List.Basic

/-!
# The calls of a stream

A stream with a call to a signature is cut at its first call and behind its last one. Every
call lies in the span between them, and the first call dominates the others when that span
has no label.
-/

namespace AccessWeave

open Instruction (invoke)

theorem is_call_to_iff {instruction : Instruction} {signature : Signature} :
    instruction.isCallTo signature = true ↔ instruction = invoke signature := by
  cases instruction <;> simp [Instruction.isCallTo, Instruction.invoked?]

theorem mem_call_positions_iff {stream : List Instruction} {signature : Signature} {index : Nat} :
    index ∈ callPositions stream signature ↔ stream[index]? = some (invoke signature) := by
  constructor
  · intro member
    rcases List.mem_filterMap.mp member with ⟨⟨instruction, place⟩, indexed, kept⟩
    have here : stream[place]? = some instruction := List.mem_zipIdx_iff_getElem?.mp indexed
    dsimp only at kept
    split at kept
    · next matching =>
        cases Option.some.inj kept
        rw [here, is_call_to_iff.mp matching]
    · cases kept
  · intro here
    apply List.mem_filterMap.mpr
    refine ⟨(invoke signature, index), List.mem_zipIdx_iff_getElem?.mpr here, ?_⟩
    simp [is_call_to_iff.mpr]

theorem call_positions_append (front back : List Instruction) (signature : Signature) :
    callPositions (front ++ back) signature =
      callPositions front signature
        ++ (callPositions back signature).map (front.length + ·) := by
  unfold callPositions
  rw [List.zipIdx_append, List.filterMap_append]
  congr 1
  rw [List.zipIdx_eq_map_add, List.filterMap_map, List.map_filterMap]
  congr 1
  funext entry
  simp only [Function.comp_apply]
  split <;> simp [Nat.add_comm]

theorem call_positions_nil_iff {stream : List Instruction} {signature : Signature} :
    callPositions stream signature = [] ↔ invoke signature ∉ stream := by
  rw [List.eq_nil_iff_forall_not_mem]
  constructor
  · intro empty member
    rcases List.mem_iff_getElem?.mp member with ⟨index, here⟩
    exact empty index (mem_call_positions_iff.mpr here)
  · intro absent index member
    exact absent (List.mem_of_getElem? (mem_call_positions_iff.mp member))

theorem call_positions_at_call (before rest : List Instruction) (signature : Signature)
    (unseen : invoke signature ∉ before) :
    callPositions (before ++ invoke signature :: rest) signature =
      before.length ::
        (callPositions rest signature).map (before.length + 1 + ·) := by
  have single : callPositions [invoke signature] signature = [0] := by
    simp [callPositions, is_call_to_iff.mpr]
  rw [call_positions_append, call_positions_nil_iff.mpr unseen, List.nil_append,
    ← List.singleton_append, call_positions_append, single]
  simp [Function.comp_def, Nat.add_assoc]

/-- A stream that is cut at its first call has that call as the first, and has a last one. -/
theorem first_and_last_call {before : List Instruction} (rest : List Instruction)
    {signature : Signature} (unseen : invoke signature ∉ before) :
    (callPositions (before ++ invoke signature :: rest) signature).head? = some before.length ∧
      ∃ last, (callPositions (before ++ invoke signature :: rest) signature).getLast? =
        some last := by
  rw [call_positions_at_call before rest signature unseen]
  exact ⟨List.head?_cons, _, List.getLast?_cons⟩

/-- An instruction that occurs neither in front of a block nor behind it is in the block. -/
theorem index_in_block {front block after : List Instruction} {instruction : Instruction}
    {index : Nat} (notBefore : instruction ∉ front) (notAfter : instruction ∉ after)
    (here : (front ++ block ++ after)[index]? = some instruction) :
    ∃ offset, index = front.length + offset ∧ block[offset]? = some instruction := by
  have inside : index < (front ++ block).length := by
    by_contra outside
    rw [List.getElem?_append_right (Nat.le_of_not_lt outside)] at here
    exact notAfter (List.mem_of_getElem? here)
  rw [List.getElem?_append_left inside] at here
  have behind : front.length ≤ index := by
    by_contra early
    rw [List.getElem?_append_left (Nat.lt_of_not_le early)] at here
    exact notBefore (List.mem_of_getElem? here)
  rw [List.getElem?_append_right behind] at here
  exact ⟨index - front.length, (Nat.add_sub_cancel' behind).symm, here⟩

/-- The first and the last call are the ends of a span that holds every call. -/
theorem call_span {stream : List Instruction} {signature : Signature} {first last : Nat}
    (head : (callPositions stream signature).head? = some first)
    (final : (callPositions stream signature).getLast? = some last) :
    ∃ before span after, stream = before ++ invoke signature :: (span ++ after) ∧
      first = before.length ∧ last = before.length + span.length ∧
      invoke signature ∉ before ∧ invoke signature ∉ after := by
  have present : invoke signature ∈ stream := by
    by_contra absent
    rw [call_positions_nil_iff.mpr absent] at head
    cases head
  rcases List.eq_append_cons_of_mem present with ⟨before, rest, rfl, unseen⟩
  rw [call_positions_at_call before rest signature unseen] at head final
  have firstIs : first = before.length := (Option.some.inj head).symm
  by_cases more : invoke signature ∈ rest
  · -- The last call is the first one seen from the end of the stream.
    rcases List.eq_append_cons_of_mem (List.mem_reverse.mpr more) with
      ⟨ending, beginning, reversed, unseenAfter⟩
    have split : rest = beginning.reverse ++ invoke signature :: ending.reverse := by
      simpa using congrArg List.reverse reversed
    have unseenEnding : invoke signature ∉ ending.reverse := by simpa using unseenAfter
    refine ⟨before, beginning.reverse ++ [invoke signature], ending.reverse, ?_, firstIs, ?_,
      unseen, unseenEnding⟩
    · simp [split]
    · have single : callPositions (invoke signature :: ending.reverse) signature = [0] := by
        simpa [call_positions_nil_iff.mpr unseenEnding] using
          call_positions_at_call [] ending.reverse signature List.not_mem_nil
      rw [split, call_positions_append, single] at final
      simp only [List.map_append, List.map_cons, List.map_nil, ← List.cons_append,
        List.getLast?_concat, Option.some.injEq, Nat.add_zero] at final
      simp only [List.length_append, List.length_cons, List.length_nil]
      omega
  · refine ⟨before, [], rest, rfl, firstIs, ?_, unseen, more⟩
    rw [call_positions_nil_iff.mpr more] at final
    simpa using final.symm

/-- The first and the last place at which a stream calls the signature. -/
structure EndCalls (signature : Signature) (stream : List Instruction) (first last : Nat) :
    Prop where
  begins : stream[first]? = some (invoke signature)
  finishes : stream[last]? = some (invoke signature)
  within : ∀ index, stream[index]? = some (invoke signature) → first ≤ index ∧ index ≤ last

theorem end_calls_of_positions {stream : List Instruction} {signature : Signature}
    {first last : Nat} (head : (callPositions stream signature).head? = some first)
    (final : (callPositions stream signature).getLast? = some last) :
    EndCalls signature stream first last where
  begins := mem_call_positions_iff.mp (List.mem_of_head? head)
  finishes := mem_call_positions_iff.mp (List.mem_of_getLast? final)
  within := by
    intro index here
    rcases call_span head final with ⟨before, span, after, rfl, rfl, rfl, unseen, unseenAfter⟩
    rw [← List.cons_append, ← List.append_assoc] at here
    obtain ⟨offset, rfl, inside⟩ := index_in_block unseen unseenAfter here
    obtain ⟨short, -⟩ := List.getElem?_eq_some_iff.mp inside
    rw [List.length_cons] at short
    omega

theorem end_calls_iff {stream : List Instruction} {signature : Signature} {first last : Nat} :
    EndCalls signature stream first last ↔
      (callPositions stream signature).head? = some first ∧
        (callPositions stream signature).getLast? = some last := by
  refine ⟨fun ends => ?_, fun found => end_calls_of_positions found.1 found.2⟩
  have somewhere : callPositions stream signature ≠ [] :=
    List.ne_nil_of_mem (mem_call_positions_iff.mpr ends.begins)
  have head := List.head?_eq_some_head somewhere
  have final := List.getLast?_eq_some_getLast somewhere
  have listed := end_calls_of_positions head final
  rw [head, final, Option.some_inj, Option.some_inj]
  exact ⟨Nat.le_antisymm (listed.within _ ends.begins).1 (ends.within _ listed.begins).1,
    Nat.le_antisymm (ends.within _ listed.finishes).2 (listed.within _ ends.finishes).2⟩

/-- Where the calls of a stream lie in a span that begins with one, the first call is the
beginning of the span and the last one is inside it. -/
theorem calls_within_span {before after : List Instruction} {signature : Signature}
    (span : List Instruction)
    (unseen : invoke signature ∉ before) (unseenAfter : invoke signature ∉ after) :
    ∃ count, count ≤ span.length ∧
      (callPositions (before ++ invoke signature :: (span ++ after)) signature).head? =
        some before.length ∧
      (callPositions (before ++ invoke signature :: (span ++ after)) signature).getLast? =
        some (before.length + count) := by
  obtain ⟨headIs, last, final⟩ := first_and_last_call (span ++ after) unseen
  rcases call_span headIs final with
    ⟨before', span', after', split, sameLength, lastIs, _, unseenLast⟩
  have inside : last < (before ++ invoke signature :: span).length := by
    by_contra outside
    have here := mem_call_positions_iff.mp (List.mem_of_getLast? final)
    rw [show before ++ invoke signature :: (span ++ after) =
        (before ++ invoke signature :: span) ++ after by simp,
      List.getElem?_append_right (Nat.le_of_not_lt outside)] at here
    exact unseenAfter (List.mem_of_getElem? here)
  refine ⟨span'.length, ?_, headIs, ?_⟩
  · simp only [List.length_append, List.length_cons] at inside
    omega
  · rw [final, lastIs, sameLength]

/-- Dominance looks at the instructions after the first call, as far as the last. -/
theorem dominates_iff (before rest : List Instruction) (call : Instruction) (count : Nat) :
    dominates (before ++ call :: rest) before.length (before.length + count) = true ↔
      ∀ instruction ∈ rest.take count, instruction.isLabel = false := by
  have behind : (before ++ call :: rest).drop (before.length + 1) = rest := by simp
  rw [dominates, behind, Nat.add_sub_cancel_left]
  simp

end AccessWeave
