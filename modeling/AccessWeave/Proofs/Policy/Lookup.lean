import AccessWeave.Proofs.Policy.AllowList
import Mathlib.Tactic.ByContra

/-!
# Ascending lists as sets and as maps

An ascending list is told by what it holds. A set of principals is therefore told by its members,
and properties by what their keys are looked up to. Inserting changes the look-up of one key.
-/

namespace AccessWeave

section

variable {Value : Type} {key : Value → String} {left right : List Value} {value item : Value}

theorem eq_of_same_key (ascending : Ascending key left) (inside : value ∈ left)
    (other : item ∈ left) (same : key value = key item) : value = item := by
  by_contra different
  rcases List.mem_iff_append.mp inside with ⟨front, back, rfl⟩
  obtain ⟨-, behind, before⟩ := List.pairwise_append.mp ascending
  rcases List.mem_append.mp other with early | late
  · have below := before item early value List.mem_cons_self
    rw [same] at below
    exact String.lt_irrefl _ below
  · rcases List.mem_cons.mp late with here | later
    · exact different here.symm
    · have below := (List.pairwise_cons.mp behind).1 item later
      rw [same] at below
      exact String.lt_irrefl _ below

theorem ascending_ext (leftAscends : Ascending key left) (rightAscends : Ascending key right)
    (same : ∀ item, item ∈ left ↔ item ∈ right) : left = right := by
  have once : ∀ {list : List Value}, Ascending key list → list.Nodup := by
    intro list ascends
    apply ascends.imp
    rintro earlier later below rfl
    exact String.lt_irrefl _ below
  apply List.Perm.eq_of_pairwise _ leftAscends rightAscends
    ((List.perm_ext_iff_of_nodup (once leftAscends) (once rightAscends)).mpr same)
  intro first second _ _ below above
  exact absurd (String.lt_trans below above) (String.lt_irrefl _)

theorem mem_insert_ascending_iff (ascending : Ascending key left) :
    item ∈ insertAscending key value left ↔
      item = value ∨ item ∈ left ∧ key item ≠ key value := by
  have self : value ∈ insertAscending key value left := by
    induction left with
    | nil => exact List.mem_singleton_self value
    | cons head rest induction =>
        rw [insertAscending]
        split
        · exact List.mem_cons_self
        · split
          · exact List.mem_cons_of_mem _ (induction (List.pairwise_cons.mp ascending).2)
          · exact List.mem_cons_self
  constructor
  · intro member
    rcases mem_insert_ascending member with same | inside
    · exact .inl same
    · by_cases same : key item = key value
      · exact .inl (eq_of_same_key (insert_ascending value ascending) member self same)
      · exact .inr ⟨inside, same⟩
  · rintro (rfl | ⟨inside, different⟩)
    · exact self
    · exact mem_insert_ascending_of_other inside different

/-- Where a key tells the value, nothing is replaced by anything else. -/
theorem mem_ascending_of_iff (injective : ∀ first second, key first = key second → first = second) :
    item ∈ ascendingOf key left ↔ item ∈ left := by
  refine ⟨mem_of_mem_ascending, ?_⟩
  intro member
  suffices fromKept : ∀ kept, Ascending key kept → item ∈ kept ∨ item ∈ left →
      item ∈ left.foldl (fun kept value => insertAscending key value kept) kept from
    fromKept [] List.Pairwise.nil (.inr member)
  clear member
  induction left with
  | nil => exact fun _ _ inside => inside.resolve_right List.not_mem_nil
  | cons value values induction =>
      intro kept ascending inside
      apply induction _ (insert_ascending value ascending)
      rw [List.mem_cons] at inside
      rw [mem_insert_ascending_iff ascending]
      by_cases same : item = value
      · exact .inl (.inl same)
      · rcases inside with early | here | later
        · exact .inl (.inr ⟨early, fun keys => same (injective _ _ keys)⟩)
        · exact absurd here same
        · exact .inr later

end

namespace PrincipalSet

theorem ext_members {left right : PrincipalSet}
    (same : ∀ principal, principal ∈ left.members ↔ principal ∈ right.members) :
    left = right := by
  have members := ascending_ext left.ascending right.ascending same
  cases left
  cases right
  cases members
  rfl

theorem mem_of_list_iff {principals : List Principal} {principal : Principal} :
    principal ∈ (ofList principals).members ↔ principal ∈ principals := by
  apply mem_ascending_of_iff
  rintro ⟨first⟩ ⟨second⟩ same
  exact congrArg Principal.mk same

end PrincipalSet

namespace Properties

variable {properties : Properties} {key value : String}

theorem find_some_iff : properties.find? key = some value ↔ (key, value) ∈ properties.entries := by
  refine ⟨?_, find_of_mem_entries⟩
  intro found
  obtain ⟨⟨name, content⟩, first, rfl⟩ := Option.map_eq_some_iff.mp found
  have same : name = key := by simpa using List.find?_some first
  rw [← same]
  exact List.mem_of_find?_eq_some first

theorem find_insert (properties : Properties) (key value other : String) :
    (properties.insert key value).find? other =
      if other = key then some value else properties.find? other := by
  have members : ∀ content, (properties.insert key value).find? other = some content ↔
      (other, content) = (key, value) ∨ properties.find? other = some content ∧ other ≠ key := by
    intro content
    rw [find_some_iff, find_some_iff, insert]
    exact mem_insert_ascending_iff properties.ascending
  apply Option.ext
  intro content
  rw [members]
  split
  · next same => simp [same, eq_comm]
  · next different => simp [different]

theorem find_empty (key : String) : empty.find? key = none := rfl

end Properties

end AccessWeave
