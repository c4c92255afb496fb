import AccessWeave.Proofs.Policy.Overlays
import AccessWeave.Proofs.Policy.Reading

/-!
# A policy written as properties

Every principal of a policy that has been read has a dotted name, which holds no comma and no
blank. So the entries of a list that is written out are the principals again, and the properties
that a policy is written as are read as the same policy.
-/

namespace AccessWeave

namespace Config

variable {config : Config} {properties : Properties} {operation : Operation}
  {principal : Principal} {principals : PrincipalSet}

/-- Whoever a policy that has been read allows is named as configuration has it. -/
theorem dotted_of_allowed (accepted : ofProperties properties = .ok config)
    (allowed : principal ∈ (config.allowed operation).members) : DottedName principal.name := by
  obtain ⟨valid, reads⟩ := of_properties_ok_iff.mp accepted
  obtain ⟨value, found, listed⟩ := (reads.allowed operation principal).mp allowed
  have named : NamesPrincipal principal.text := by
    rcases valid.lists operation value found with blank | each
    · rw [listed_entries_of_blank blank, List.mem_singleton] at listed
      exact absurd listed principal.text_ne_empty
    · exact each _ listed
  obtain ⟨other, parsed⟩ := names_principal_iff.mp named
  obtain ⟨text, name⟩ := parse_ok_iff.mp parsed
  rwa [Principal.text_injective text]

/-- The entries of a list that is written out are its members. -/
theorem listed_entries_of_allow_list
    (named : ∀ principal ∈ principals.members, DottedName principal.name)
    (some : principals.members ≠ []) :
    listedEntries (allowList principals) = principals.members.map Principal.text := by
  have whole : ∀ part ∈ principals.members.map fun principal => principal.text.toList,
      ',' ∉ part := by
    intro part member
    obtain ⟨principal, inside, rfl⟩ := List.mem_map.mp member
    exact (text_characters (named principal inside)).1
  have parts : Text.pieces ',' (allowList principals).toList
      = principals.members.map fun principal => principal.text.toList := by
    rw [allowList, String.toList_intercalate, List.map_map]
    exact Text.pieces_join whole (by simpa using some)
  rw [listed_entries_eq, parts, List.map_map]
  apply List.map_congr_left
  intro principal inside
  rw [Function.comp, trimmedText, (text_characters (named principal inside)).2,
    String.ofList_toList]

theorem text_mem_allow_list_iff
    (named : ∀ principal ∈ principals.members, DottedName principal.name) :
    principal.text ∈ listedEntries (allowList principals) ↔ principal ∈ principals.members := by
  by_cases none : principals.members = []
  · have blank : IsBlankText (allowList principals) := by
      rw [allowList, none]
      simp [IsBlankText]
    rw [listed_entries_of_blank blank, none, List.mem_singleton]
    exact iff_of_false principal.text_ne_empty List.not_mem_nil
  · rw [listed_entries_of_allow_list named none, List.mem_map]
    constructor
    · rintro ⟨other, member, same⟩
      rwa [← Principal.text_injective same]
    · exact fun member => ⟨principal, member, rfl⟩

/-! ### The properties of a policy -/

/-- A policy is written as one list for each operation and as the artifact, if it has one. -/
theorem find_to_properties_iff (config : Config) {key value : String} :
    config.toProperties.find? key = some value ↔
      (∃ operation : Operation, operation.configKey = key ∧
        allowList (config.allowed operation) = value) ∨
      key = bootstrapKey ∧ config.bootstrapArtifact = some value := by
  have lists : ∀ {key value : String},
      (Properties.ofList (config.allow.map listProperty)).find? key = some value ↔
      ∃ operation : Operation, operation.configKey = key ∧
        allowList (config.allowed operation) = value := by
    intro key value
    have keys : (config.allow.map listProperty).map Prod.fst
        = Operation.all.map Operation.configKey := by
      rw [← config.complete, List.map_map, List.map_map]
      rfl
    have distinct : ((config.allow.map listProperty).map Prod.fst).Nodup := by
      rw [keys]
      decide
    rw [Properties.find_of_list_of_distinct distinct, List.mem_map]
    constructor
    · rintro ⟨⟨operation, principals⟩, entry, same⟩
      obtain ⟨sameKey, sameList⟩ := Prod.mk.inj same
      rw [← mem_allow_iff.mp entry] at sameList
      exact ⟨operation, sameKey, sameList⟩
    · rintro ⟨operation, rfl, rfl⟩
      exact ⟨(operation, config.allowed operation), mem_allow_iff.mpr rfl, rfl⟩
  rw [toProperties]
  cases artifact : config.bootstrapArtifact with
  | none => simp [lists]
  | some path =>
      rw [Properties.find_insert]
      split
      · next same =>
          rw [same, Option.some.injEq, and_iff_right rfl, or_iff_right]
          rintro ⟨operation, found, -⟩
          exact config_key_ne_bootstrap operation found
      · next other => simp [lists, other]

theorem find_to_properties_list (config : Config) (operation : Operation) {value : String} :
    config.toProperties.find? operation.configKey = some value ↔
      allowList (config.allowed operation) = value := by
  rw [find_to_properties_iff]
  constructor
  · rintro (⟨other, same, found⟩ | ⟨same, -⟩)
    · rwa [config_key_injective same] at found
    · exact absurd same (config_key_ne_bootstrap operation)
  · exact fun found => .inl ⟨operation, rfl, found⟩

theorem to_properties_valid (named : ∀ operation, ∀ principal ∈ (config.allowed operation).members,
    DottedName principal.name) : config.toProperties.Valid where
  known := by
    intro key value found _
    rcases config.find_to_properties_iff.mp found with ⟨operation, rfl, -⟩ | ⟨rfl, -⟩
    · exact config_key_recognized operation
    · decide
  lists := by
    intro operation value found
    rw [find_to_properties_list] at found
    subst found
    by_cases none : (config.allowed operation).members = []
    · left
      rw [allowList, none]
      simp [IsBlankText]
    · right
      rw [listed_entries_of_allow_list (named operation) none, List.forall_mem_map]
      intro principal member
      exact ⟨principal.name, named operation principal member, principal.text_eq⟩

theorem reads_to_properties (named : ∀ operation, ∀ principal ∈ (config.allowed operation).members,
    DottedName principal.name) : config.Reads config.toProperties where
  allowed := by
    intro operation principal
    simp only [find_to_properties_list, exists_eq_left']
    exact (text_mem_allow_list_iff (named operation)).symm
  artifact := by
    apply Option.ext
    intro path
    rw [find_to_properties_iff]
    constructor
    · exact fun same => .inr ⟨rfl, same⟩
    · rintro (⟨operation, same, -⟩ | ⟨-, same⟩)
      · exact absurd same (config_key_ne_bootstrap operation)
      · exact same

end Config

/-- A policy that has been read is written as properties that are read as the same policy, and what
is written for an operation lists its principals one by one. -/
theorem written_policy_is_read_back {properties : Properties} {config : Config}
    (accepted : Config.ofProperties properties = .ok config) :
    Config.ofProperties config.toProperties = .ok config ∧
      ∀ operation, (config.allowed operation).members ≠ [] →
        ∃ value, config.toProperties.find? operation.configKey = some value ∧
          listedEntries value = (config.allowed operation).members.map Principal.text := by
  have named : ∀ operation, ∀ principal ∈ (config.allowed operation).members,
      DottedName principal.name :=
    fun operation principal allowed => Config.dotted_of_allowed accepted allowed
  constructor
  · exact Config.of_properties_ok_iff.mpr
      ⟨Config.to_properties_valid named, Config.reads_to_properties named⟩
  · intro operation some
    exact ⟨_, (config.find_to_properties_list operation).mpr rfl,
      Config.listed_entries_of_allow_list (named operation) some⟩

/-- Properties with blanks, empty lists and names in any script. -/
def spelledProperties : Properties :=
  .ofList [("callguard.bootstrap.artifact", " a,b "), ("callguard.network.connect.allow", " "),
    ("callguard.runtime.exit.allow", "module b.$_1 ,module été.Ωx,  module b.$_1"),
    ("other", "module x")]

def spelledConfig : Config :=
  ⟨[(.runtimeExit, .ofList [⟨"été.Ωx"⟩, ⟨"b.$_1"⟩]), (.processStart, .empty),
    (.socketConnect, .empty)], rfl, some " a,b "⟩

theorem spelled_policy_is_read_back :
    Config.ofProperties spelledProperties = .ok spelledConfig ∧
      Config.ofProperties spelledConfig.toProperties = .ok spelledConfig := by
  have found : (Config.ofProperties spelledProperties).toOption = some spelledConfig := by
    decide +kernel
  have accepted : Config.ofProperties spelledProperties = .ok spelledConfig := by
    cases read : Config.ofProperties spelledProperties with
    | error fault => simp [read, Except.toOption] at found
    | ok config =>
        rw [read] at found
        exact congrArg Except.ok (Option.some.inj found)
  exact ⟨accepted, (written_policy_is_read_back accepted).1⟩

end AccessWeave
