import AccessWeave.Weave.Body
import Mathlib.Tactic.SplitIfs

/-!
# The flags of the rules

A body is woven with a context whose flags are taken back first, so that each rule finds its own
flag as the rules before it in the list have left it, which is unset. Afterwards the flag of each
rule says whether the rule needs nothing more in this body.
-/

namespace AccessWeave

namespace WeaveContext

theorem is_applied_reset (context : WeaveContext) (index : Nat) :
    context.reset.isApplied index = false := by
  rw [isApplied, reset, List.getD_eq_getElem?_getD, List.getElem?_map]
  cases context.applied[index]? <;> rfl

theorem is_applied_mark (context : WeaveContext) (index other : Nat) (flag : Bool) :
    (context.mark index flag).isApplied other =
      if index = other then flag else context.isApplied other := by
  have room : index < (context.applied ++
      List.replicate (index + 1 - context.applied.length) false).length := by
    rw [List.length_append, List.length_replicate]
    omega
  rw [isApplied, mark, List.getD_eq_getElem?_getD, List.getElem?_set]
  by_cases same : index = other
  · rw [if_pos same, if_pos room, if_pos same]
    rfl
  · rw [if_neg same, if_neg same, isApplied, List.getD_eq_getElem?_getD, List.getElem?_append,
      List.getElem?_replicate]
    -- A flag for which room was made is unset, as one that is not there is.
    split_ifs with held
    · rfl
    · rw [List.getElem?_eq_none (Nat.le_of_not_lt held)]
      rfl
    · rw [List.getElem?_eq_none (Nat.le_of_not_lt held)]

theorem unset_behind_mark {context : WeaveContext} {index : Nat}
    (unset : ∀ later, index ≤ later → context.isApplied later = false) (flag : Bool) :
    ∀ later, index + 1 ≤ later → (context.mark index flag).isApplied later = false := by
  intro later behind
  rw [is_applied_mark, if_neg (Nat.ne_of_lt behind)]
  exact unset later (Nat.le_of_succ_le behind)

end WeaveContext

theorem weave_flagged_unset {context : WeaveContext} {index : Nat}
    (unset : ∀ later, index ≤ later → context.isApplied later = false) (rules : List Rule)
    (stream : List Instruction) :
    (weaveFlagged context index rules stream).steps = weaveEach false rules stream := by
  induction rules generalizing context index stream with
  | nil => rfl
  | cons rule rules induction =>
      have own : context.isApplied index = false := unset index (Nat.le_refl index)
      rw [weaveFlagged, weaveEach, own]
      exact congrArg _ (induction (WeaveContext.unset_behind_mark unset _) _)

/-- Behind the flags that stand before the index, each rule has the flag of its own step. -/
theorem is_applied_flagged {context : WeaveContext} {index : Nat}
    (unset : ∀ later, index ≤ later → context.isApplied later = false) (rules : List Rule)
    (stream : List Instruction) (other : Nat) :
    (weaveFlagged context index rules stream).context.isApplied other =
      if other < index then context.isApplied other
      else (((weaveEach false rules stream)[other - index]?).map
        WovenStream.applied).getD false := by
  induction rules generalizing context index stream with
  | nil =>
      rw [weaveFlagged, weaveEach, List.getElem?_nil]
      split_ifs with before
      · rfl
      · exact unset other (Nat.le_of_not_lt before)
  | cons rule rules induction =>
      have own : context.isApplied index = false := unset index (Nat.le_refl index)
      rw [weaveFlagged, weaveEach, own, induction (WeaveContext.unset_behind_mark unset _),
        WeaveContext.is_applied_mark]
      rcases Nat.lt_trichotomy other index with before | rfl | behind
      · rw [if_pos (by omega), if_neg (by omega), if_pos before]
      · rw [if_pos (Nat.lt_succ_self other), if_pos rfl, if_neg (Nat.lt_irrefl other),
          Nat.sub_self]
        rfl
      · have further : other - index = other - (index + 1) + 1 := by omega
        rw [if_neg (by omega), if_neg (by omega), further, List.getElem?_cons_succ]

/-- Every rule is tried afresh, whatever flags the context held. -/
theorem weave_flagged_reset (context : WeaveContext) (rules : List Rule)
    (stream : List Instruction) :
    (weaveFlagged context.reset 0 rules stream).steps = weaveEach false rules stream :=
  weave_flagged_unset (fun later _ => context.is_applied_reset later) rules stream

theorem is_applied_weave_body (body : Body) (rules : List Rule) (context : WeaveContext)
    (index : Nat) :
    (weaveBody body rules context).context.isApplied index =
      (((weaveEach false rules body.instructions)[index]?).map WovenStream.applied).getD false := by
  have flags : (weaveBody body rules context).context =
      (weaveFlagged context.reset 0 rules body.instructions).context := by
    rw [weaveBody]
    split_ifs <;> rfl
  rw [flags, is_applied_flagged fun later _ => context.is_applied_reset later]
  rfl

end AccessWeave
