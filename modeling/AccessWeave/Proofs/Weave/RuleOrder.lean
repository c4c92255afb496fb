import AccessWeave.Proofs.Weave.Layout
import AccessWeave.Proofs.Weave.OtherGuards

/-!
# The order of the rules

Rules for different operations do not see each other's guards. So which of them put a guard in,
and before which instruction of the original stream, is told by the original stream alone, for
every order of the rules. What the order does decide is how the guards that go to one place are
arranged among themselves.
-/

namespace AccessWeave

open Instruction (loadConst invoke guardSequence)

/-- The instruction of a stream before which a rule puts its guard. -/
def Rule.spot (rule : Rule) (stream : List Instruction) : Nat :=
  match (callPositions stream rule.signature).head?,
      (callPositions stream rule.signature).getLast? with
  | some first, some last =>
      if rule.placement = .beforeCall ∧ dominates stream first last then first else 0
  | _, _ => 0

/-- The guards that a layout has right before an instruction of the original stream. -/
def Layout.guardsAt : Layout → Nat → List Operation
  | [], _ => []
  | .guard operation :: layout, 0 => operation :: guardsAt layout 0
  | .guard _ :: layout, index + 1 => guardsAt layout (index + 1)
  | .kept _ :: _, 0 => []
  | .kept _ :: layout, index + 1 => guardsAt layout index

theorem Operation.key_injective : Function.Injective Operation.key := by
  intro left right same
  cases left <;> cases right <;> first | rfl | simp [key] at same

section Steps

variable {rule : Rule} {stream : List Instruction}

theorem modified_iff :
    (weaveStream stream rule false).modified = true ↔ rule.Unprotected stream := by
  rcases weave_stream_cases rule stream with ⟨guarded, applied, step⟩ | ⟨unguarded, index, step⟩
  · simp [step, guarded]
  · simp [step, unguarded]

theorem weave_stream_at_spot (unguarded : rule.Unprotected stream) :
    (weaveStream stream rule false).instructions =
      insertGuard stream rule.operation (rule.spot stream) := by
  rcases weave_stream_inversion rule stream with
    ⟨unseen, -⟩ | ⟨first, last, head, final, ⟨guarded, -⟩ | ⟨-, step⟩⟩
  · exact absurd unguarded.1 unseen
  · rw [rule.unprotected_iff head final, guarded] at unguarded
    cases unguarded
  · simp only [step, Rule.spot, head, final]

theorem weave_stream_protected (guarded : ¬rule.Unprotected stream) :
    (weaveStream stream rule false).instructions = stream := by
  rcases weave_stream_cases rule stream with ⟨_, applied, step⟩ | ⟨unguarded, _⟩
  · rw [step]
  · exact (guarded unguarded).elim

/-- The spot is the first call when the rule asks for it and no label lies between calls. -/
theorem spot_at_call {before rest : List Instruction} (unseen : invoke rule.signature ∉ before)
    (asked : rule.placement = .beforeCall)
    (free : ¬LabelBetween rule.signature (before ++ invoke rule.signature :: rest)) :
    rule.spot (before ++ invoke rule.signature :: rest) = before.length := by
  obtain ⟨head, last, final⟩ := first_and_last_call rest unseen
  have dominated := (dominates_iff_no_label_between head final).mpr free
  simp only [Rule.spot, head, final, asked, dominated, true_and, if_true]

theorem spot_at_entry
    (blocked : rule.placement = .beforeCall → LabelBetween rule.signature stream) :
    rule.spot stream = 0 := by
  unfold Rule.spot
  split
  · next first last head final =>
      rw [if_neg]
      rintro ⟨asked, dominated⟩
      exact (dominates_iff_no_label_between head final).mp dominated (blocked asked)
  · rfl

/-- Where the guard goes, the stream is cut at a site. -/
theorem spot_is_site (stream : List Instruction) (foreign : rule.signature ≠ guardEntry) :
    IsSite (stream.take (rule.spot stream)) (stream.drop (rule.spot stream)) := by
  by_cases called : invoke rule.signature ∈ stream
  · rcases List.eq_append_cons_of_mem called with ⟨before, rest, rfl, unseen⟩
    by_cases blocked : rule.placement = .beforeCall →
        LabelBetween rule.signature (before ++ invoke rule.signature :: rest)
    · rw [spot_at_entry blocked]
      exact Or.inl List.take_zero
    · rcases Classical.not_imp.mp blocked with ⟨asked, free⟩
      rw [spot_at_call unseen asked free, List.drop_left]
      exact Or.inr ⟨_, _, foreign, rfl⟩
  · have nowhere := call_positions_nil_iff.mpr called
    have entry : rule.spot stream = 0 := by simp [Rule.spot, nowhere]
    rw [entry]
    exact Or.inl List.take_zero

end Steps

namespace Layout

theorem guards_at_append (front back : Layout) (index : Nat) :
    guardsAt (front ++ back) index = guardsAt front index ++
      (if front.original.length ≤ index then guardsAt back (index - front.original.length)
       else []) := by
  induction front generalizing index with
  | nil => simp [guardsAt, original]
  | cons piece front induction =>
      cases piece with
      | guard operation =>
          have same : original (.guard operation :: front) = original front := rfl
          rw [same, List.cons_append]
          cases index with
          | zero => simp only [guardsAt, induction, List.cons_append]
          | succ index => simp only [guardsAt, induction]
      | kept instruction =>
          have longer : (original (.kept instruction :: front)).length =
              (original front).length + 1 := rfl
          rw [longer, List.cons_append]
          cases index with
          | zero => simp [guardsAt]
          | succ index =>
              simp only [guardsAt, induction, Nat.add_le_add_iff_right, Nat.add_sub_add_right]

theorem guards_at_of_kept (stream : List Instruction) (index : Nat) :
    guardsAt (stream.map .kept) index = [] := by
  induction stream generalizing index with
  | nil => rfl
  | cons instruction stream induction =>
      cases index with
      | zero => rfl
      | succ index => exact induction index

theorem original_subset_woven (layout : Layout) : layout.original ⊆ layout.woven := by
  intro instruction member
  rcases List.mem_filterMap.mp member with ⟨piece, inside, kept⟩
  cases piece with
  | guard _ => cases kept
  | kept _ =>
      cases kept
      exact List.mem_flatMap.mpr ⟨_, inside, List.mem_singleton.mpr rfl⟩

theorem label_between_iff {signature : Signature} (foreign : signature ≠ guardEntry)
    (layout : Layout) :
    LabelBetween signature layout.woven ↔ LabelBetween signature layout.original := by
  have same : layout.woven.filter (tellsDominance signature) =
      layout.original.filter (tellsDominance signature) := by
    induction layout with
    | nil => rfl
    | cons piece layout induction =>
        rw [woven, List.flatMap_cons, List.filter_append]
        cases piece with
        | guard operation =>
            rw [Piece.instructions, guard_tells_nothing operation foreign, List.nil_append]
            exact induction
        | kept instruction =>
            have first : original (.kept instruction :: layout) =
                [instruction] ++ original layout := rfl
            rw [Piece.instructions, first, List.filter_append]
            exact congrArg _ induction
  rw [← label_between_filter, same, label_between_filter]

/-- A cut of the woven stream right before a call to anything but the guard is a cut of the
layout right before that call. -/
theorem split_at_call {layout : Layout} {called : Signature} {before rest : List Instruction}
    (foreign : called ≠ guardEntry) (split : layout.woven = before ++ invoke called :: rest) :
    ∃ front back : Layout, layout = front ++ .kept (invoke called) :: back ∧
      front.woven = before ∧ back.woven = rest := by
  rcases split_at_site (Or.inr ⟨_, _, foreign, rfl⟩) split with
    ⟨front, back, rfl, frontIs, backIs⟩
  cases back with
  | nil => cases backIs
  | cons piece back =>
      cases piece with
      | guard operation => cases (List.cons.inj backIs).1
      | kept instruction =>
          rw [(List.cons.inj backIs).1]
          exact ⟨front, back, rfl, frontIs, (List.cons.inj backIs).2⟩

/-- A guard in front of an instruction that was kept is found there and nowhere else. -/
theorem guards_at_insert (front back : Layout) (operation : Operation)
    (instruction : Instruction) (index : Nat) :
    (guardsAt (front ++ .guard operation :: .kept instruction :: back) index).Perm
      (guardsAt (front ++ .kept instruction :: back) index ++
        if front.original.length = index then [operation] else []) := by
  rw [guards_at_append, guards_at_append, List.append_assoc]
  apply List.Perm.append_left
  rcases Nat.lt_trichotomy index front.original.length with less | rfl | more
  · rw [if_neg (by omega), if_neg (by omega), if_neg (by omega)]
    rfl
  · simp [guardsAt]
  · obtain ⟨beyond, beyondIs⟩ : ∃ beyond, index - front.original.length = beyond + 1 :=
      ⟨index - front.original.length - 1, by omega⟩
    rw [if_pos (by omega), if_pos (by omega), if_neg (by omega), beyondIs]
    simp [guardsAt]

section Spot

variable {rule : Rule}

theorem insert_at_entry (foreign : rule.signature ≠ guardEntry) (layout : Layout)
    (blocked : rule.placement = .beforeCall → LabelBetween rule.signature layout.woven) :
    ∃ extended : Layout, extended.original = layout.original ∧
      extended.woven = insertGuard layout.woven rule.operation (rule.spot layout.woven) ∧
      ∀ index, (extended.guardsAt index).Perm (layout.guardsAt index ++
        if rule.spot layout.original = index then [rule.operation] else []) := by
  have blockedAtFirst : rule.placement = .beforeCall →
      LabelBetween rule.signature layout.original :=
    fun asked => (label_between_iff foreign layout).mp (blocked asked)
  refine ⟨.guard rule.operation :: layout, rfl, ?_, fun index => ?_⟩
  · rw [spot_at_entry blocked]
    rfl
  · rw [spot_at_entry blockedAtFirst]
    cases index with
    | zero => exact (List.perm_append_singleton _ _).symm
    | succ index => simp [guardsAt]

theorem insert_before_call (foreign : rule.signature ≠ guardEntry) {front back : Layout}
    (unseen : invoke rule.signature ∉ front.woven) (asked : rule.placement = .beforeCall)
    (free : ¬LabelBetween rule.signature
      (woven (front ++ .kept (invoke rule.signature) :: back))) :
    ∃ extended : Layout,
      extended.original = original (front ++ .kept (invoke rule.signature) :: back) ∧
      extended.woven = insertGuard (woven (front ++ .kept (invoke rule.signature) :: back))
        rule.operation (rule.spot (woven (front ++ .kept (invoke rule.signature) :: back))) ∧
      ∀ index, (extended.guardsAt index).Perm
        (guardsAt (front ++ .kept (invoke rule.signature) :: back) index ++
          if rule.spot (original (front ++ .kept (invoke rule.signature) :: back)) = index
          then [rule.operation] else []) := by
  have freeAtFirst := mt (label_between_iff foreign _).mpr free
  have wovenIs : woven (front ++ .kept (invoke rule.signature) :: back) =
      front.woven ++ invoke rule.signature :: woven back := by
    rw [woven_append]
    rfl
  have originalIs : original (front ++ .kept (invoke rule.signature) :: back) =
      front.original ++ invoke rule.signature :: original back := by
    simp [original, Piece.kept?]
  have unseenAtFirst : invoke rule.signature ∉ front.original :=
    fun inside => unseen (original_subset_woven front inside)
  rw [wovenIs] at free ⊢
  rw [originalIs] at freeAtFirst ⊢
  refine ⟨front ++ .guard rule.operation :: .kept (invoke rule.signature) :: back, ?_, ?_,
    fun index => ?_⟩
  · rw [← originalIs]
    simp only [original, List.filterMap_append, List.filterMap_cons, Piece.kept?]
  · rw [spot_at_call unseen asked free, insert_at_first_call, woven_append, List.append_assoc]
    rfl
  · rw [spot_at_call unseenAtFirst asked freeAtFirst]
    exact guards_at_insert front back rule.operation (invoke rule.signature) index

/-- The guard that a rule puts into a woven stream stands before the instruction that the
original stream tells. -/
theorem insert_at_spot (foreign : rule.signature ≠ guardEntry) (layout : Layout)
    (called : invoke rule.signature ∈ layout.woven) :
    ∃ extended : Layout, extended.original = layout.original ∧
      extended.woven = insertGuard layout.woven rule.operation (rule.spot layout.woven) ∧
      ∀ index, (extended.guardsAt index).Perm (layout.guardsAt index ++
        if rule.spot layout.original = index then [rule.operation] else []) := by
  by_cases blocked : rule.placement = .beforeCall → LabelBetween rule.signature layout.woven
  · exact insert_at_entry foreign layout blocked
  · rcases Classical.not_imp.mp blocked with ⟨asked, free⟩
    rcases List.eq_append_cons_of_mem called with ⟨before, rest, split, unseen⟩
    rcases split_at_call foreign split with ⟨front, back, rfl, rfl, _⟩
    exact insert_before_call foreign unseen asked free

end Spot

end Layout

/-! ## All rules -/

/-- The rules that put a guard in are those that find an unprotected call in the stream as it
was at first, when no two of them are for one operation. -/
theorem inserted_rules_eq_filter {rules : List Rule}
    (distinct : (rules.map Rule.operation).Nodup)
    (foreign : ∀ rule ∈ rules, rule.signature ≠ guardEntry) (stream : List Instruction) :
    insertedRules rules (weaveEach false rules stream) =
      rules.filter fun rule => (weaveStream stream rule false).modified := by
  induction rules generalizing stream with
  | nil => rfl
  | cons rule rules induction =>
      rw [List.map_cons, List.nodup_cons] at distinct
      rw [List.forall_mem_cons] at foreign
      rw [weaveEach, inserted_rules_cons, List.filter_cons]
      have later : rules.filter (fun other => (weaveStream
          (weaveStream stream rule false).instructions other false).modified) =
            rules.filter fun other => (weaveStream stream other false).modified := by
        apply List.filter_congr
        intro other member
        rw [Bool.eq_iff_iff, modified_iff, modified_iff]
        by_cases unguarded : rule.Unprotected stream
        · have differs : rule.operation.key ≠ other.operation.key := by
            intro same
            have operations := Operation.key_injective same
            exact distinct.1 (operations ▸ List.mem_map_of_mem member)
          have kept := unprotected_insert differs (foreign.2 other member)
            (spot_is_site stream foreign.1)
          rw [List.take_append_drop] at kept
          rw [weave_stream_at_spot unguarded]
          exact kept
        · rw [weave_stream_protected unguarded]
      rw [induction distinct.2 foreign.2, later]

/-- Each guard that is put in stands where its rule's spot in the original stream is. -/
theorem guards_at_spots {rules : List Rule}
    (foreign : ∀ rule ∈ rules, rule.signature ≠ guardEntry) (layout : Layout) :
    ∃ extended : Layout, extended.original = layout.original ∧
      extended.woven = finalStream layout.woven (weaveEach false rules layout.woven) ∧
      ∀ index, (extended.guardsAt index).Perm (layout.guardsAt index ++
        ((insertedRules rules (weaveEach false rules layout.woven)).filter
          fun rule => rule.spot layout.original = index).map Rule.operation) := by
  induction rules generalizing layout with
  | nil => exact ⟨layout, rfl, rfl, fun index => by simp [insertedRules]⟩
  | cons rule rules induction =>
      rw [List.forall_mem_cons] at foreign
      rw [weaveEach, final_stream_cons, inserted_rules_cons]
      by_cases unguarded : rule.Unprotected layout.woven
      · rw [if_pos (modified_iff.mpr unguarded), weave_stream_at_spot unguarded]
        rcases layout.insert_at_spot foreign.1 unguarded.1 with
          ⟨guarded, sameOriginal, wovenIs, placed⟩
        rcases induction foreign.2 guarded with ⟨extended, originalIs, finalIs, others⟩
        rw [wovenIs] at finalIs others
        refine ⟨extended, originalIs.trans sameOriginal, finalIs, fun index => ?_⟩
        apply (others index).trans
        rw [sameOriginal, List.filter_cons]
        apply ((placed index).append_right _).trans
        rw [List.append_assoc]
        apply List.Perm.append_left
        by_cases here : rule.spot layout.original = index <;> simp [here]
      · rw [if_neg (mt modified_iff.mp unguarded), weave_stream_protected unguarded]
        exact induction foreign.2 layout

/-- What weaving comes to, for every order of rules for different operations, is told by the
original body: which rules put a guard in, before which instruction each guard stands, and how
large the declared stack becomes or that it cannot grow. Only the guards before one instruction
may change places among themselves. -/
theorem rule_order_is_immaterial (body : Body) (rules : List Rule)
    (distinct : (rules.map Rule.operation).Nodup)
    (foreign : ∀ rule ∈ rules, rule.signature ≠ guardEntry) :
    ∃ injected : List Rule,
      (∀ rule, rule ∈ injected ↔ rule ∈ rules ∧ rule.Unprotected body.instructions) ∧
      ∀ (order : List Rule) (context : WeaveContext), order.Perm rules →
        ∃ layout : Layout, layout.original = body.instructions ∧
          (∀ index, (layout.guardsAt index).Perm
            ((injected.filter fun rule => rule.spot body.instructions = index).map
              Rule.operation)) ∧
          (weaveBody body order context).body =
            { body with
              instructions := layout.woven
              maxStack := if injected = [] ∨ body.maxStack = 65535 then body.maxStack
                else body.maxStack + 1 } ∧
          (if injected ≠ [] ∧ body.maxStack = 65535 then
            (weaveBody body order context).result = .error (.stackOverflow 65535)
          else ∃ reported, (weaveBody body order context).result = .ok reported ∧
            reported.Perm injected) := by
  refine ⟨rules.filter fun rule => (weaveStream body.instructions rule false).modified,
    fun rule => by rw [List.mem_filter, modified_iff], ?_⟩
  intro order context permuted
  have orderDistinct := (permuted.map Rule.operation).nodup_iff.mpr distinct
  have orderForeign : ∀ rule ∈ order, rule.signature ≠ guardEntry :=
    fun rule member => foreign rule (permuted.mem_iff.mp member)
  have inserted := inserted_rules_eq_filter orderDistinct orderForeign body.instructions
  have same := permuted.filter fun rule => (weaveStream body.instructions rule false).modified
  rw [← inserted] at same
  have placed := guards_at_spots orderForeign (body.instructions.map .kept)
  simp only [Layout.woven_of_kept, Layout.original_of_kept, Layout.guards_at_of_kept,
    List.nil_append] at placed
  rcases placed with ⟨layout, originalIs, wovenIs, guards⟩
  refine ⟨layout, originalIs, fun index => (guards index).trans ((same.filter _).map _), ?_⟩
  simp only [weaveBody, weave_flagged_reset, wovenIs]
  generalize rules.filter _ = injected at same ⊢
  generalize insertedRules order (weaveEach false order body.instructions) = reported at same ⊢
  cases reported with
  | nil =>
      rw [← same.nil_eq]
      exact ⟨rfl, [], rfl, List.Perm.refl []⟩
  | cons rule reported =>
      have some : injected ≠ [] := by
        rintro rfl
        cases same.eq_nil
      by_cases full : body.maxStack = 65535
      · simp [some, full]
      · have room := slot_left_iff.mpr full
        simp [some, full, room, same]

/-- A body that starts a program and then ends the process. -/
def twoCallBody : Body where
  maxStack := 2
  maxLocals := 0
  instructions :=
    [.label ⟨0⟩, invoke Operation.processStart.signature, .plain 4 [],
     invoke Operation.runtimeExit.signature, .plain 177 []]
  handlers := []
  frames := []

/-- In every order the rules for starting a program and for ending the process put their guards
in, and the rule for connections does not. -/
theorem standard_order_is_immaterial :
    (Rule.standard.map Rule.operation).Nodup ∧
      (∀ rule ∈ Rule.standard, rule.signature ≠ guardEntry) ∧
      ∃ injected : List Rule,
        (∀ rule, rule ∈ injected ↔
          rule ∈ Rule.standard ∧ rule.operation ∈ [.processStart, .runtimeExit]) ∧
        ∀ (order : List Rule) (context : WeaveContext), order.Perm Rule.standard →
          (weaveBody twoCallBody order context).body.maxStack = 3 ∧
          ∃ reported, (weaveBody twoCallBody order context).result = .ok reported ∧
            reported.Perm injected := by
  have distinct : (Rule.standard.map Rule.operation).Nodup := by decide
  have foreign : ∀ rule ∈ Rule.standard, rule.signature ≠ guardEntry := by decide
  have fires : ∀ rule ∈ Rule.standard,
      (weaveStream twoCallBody.instructions rule false).modified = true ↔
        rule.operation ∈ [.processStart, .runtimeExit] := by decide +kernel
  rcases rule_order_is_immaterial twoCallBody Rule.standard distinct foreign with
    ⟨injected, unprotected, each⟩
  have named : ∀ rule, rule ∈ injected ↔
      rule ∈ Rule.standard ∧ rule.operation ∈ [.processStart, .runtimeExit] := by
    intro rule
    rw [unprotected, and_congr_right fun member => (modified_iff.symm.trans (fires rule member))]
  have some : injected ≠ [] := by
    obtain ⟨rule, member, operation⟩ : ∃ rule ∈ Rule.standard, rule.operation = .runtimeExit := by
      decide
    exact List.ne_nil_of_mem ((named rule).mpr ⟨member, by simp [operation]⟩)
  have room : twoCallBody.maxStack ≠ 65535 := by decide
  refine ⟨distinct, foreign, injected, named, fun order context permuted => ?_⟩
  rcases each order context permuted with ⟨layout, _, _, woven, outcome⟩
  rw [if_neg fun full => room full.2] at outcome
  rw [woven, if_neg fun kept => kept.elim some room]
  exact ⟨rfl, outcome⟩

/-- Guards at the start of a body are arranged by the order of their rules. -/
example : (weaveMethodBody twoCallBody (Rule.placed .methodEntry)).body ≠
    (weaveMethodBody twoCallBody (Rule.placed .methodEntry).reverse).body := by decide +kernel

end AccessWeave
