import AccessWeave.Policy.Catalog
import AccessWeave.Proofs.Text.Pieces

/-!
# Where a grant comes from

A policy is read from properties entry by entry. Whoever it allows is spelled out by an entry
of the allow-list of that operation; nothing else in the properties can grant anything. The
converse, that every listed principal is allowed, is not needed here.
-/

namespace AccessWeave

/-- The entries of an allow-list: what stands between the commas, without the blanks around
it. -/
def listedEntries (value : String) : List String :=
  (Text.pieces ',' value.toList).map fun entry => String.ofList (Text.trim entry)

/-- A text that is read as a principal is the one that the principal is written as. -/
theorem text_of_parse {value : String} {principal : Principal}
    (parsed : Principal.parse value = .ok principal) : principal.text = value := by
  unfold Principal.parse at parsed
  split at parsed
  · cases parsed
  · next before name cut =>
      split at parsed
      · next valid =>
          cases parsed
          rcases Text.cut_once_eq_some_iff.mp cut with ⟨separator, separates, split, -⟩
          have blank : separator = ' ' := of_decide_eq_true separates
          apply String.toList_inj.mp
          simp [Principal.text, split, valid.1, blank]
      · cases parsed

theorem mem_of_mem_ascending {Value : Type} {key : Value → String} {item : Value}
    {values : List Value} (member : item ∈ ascendingOf key values) : item ∈ values := by
  suffices fromKept : ∀ kept,
      item ∈ values.foldl (fun kept value => insertAscending key value kept) kept →
        item ∈ kept ∨ item ∈ values by
    rcases fromKept [] member with none | listed
    · cases none
    · exact listed
  clear member
  induction values with
  | nil => exact fun _ member => Or.inl member
  | cons value values induction =>
      intro kept member
      rcases induction _ member with inserted | later
      · rcases mem_insert_ascending inserted with same | early
        · exact Or.inr (by simp [same])
        · exact Or.inl early
      · exact Or.inr (List.mem_cons_of_mem _ later)

theorem text_mem_of_parse_entries {entries : List (List Char)} {principals : List Principal}
    {principal : Principal} (parsed : parseEntries entries = .ok principals)
    (member : principal ∈ principals) :
    principal.text ∈ entries.map fun entry => String.ofList (Text.trim entry) := by
  induction entries generalizing principals with
  | nil =>
      cases parsed
      cases member
  | cons entry entries induction =>
      simp only [parseEntries] at parsed
      split at parsed
      · cases parsed
      · next head headParsed =>
          split at parsed
          · cases parsed
          · next rest restParsed =>
              cases parsed
              rcases List.mem_cons.mp member with rfl | later
              · simp [text_of_parse headParsed]
              · exact List.mem_cons_of_mem _ (induction restParsed later)

theorem text_mem_of_parse_allow_list {value : String} {principals : PrincipalSet}
    {principal : Principal} (parsed : parseAllowList value = .ok principals)
    (member : principal ∈ principals.members) : principal.text ∈ listedEntries value := by
  unfold parseAllowList at parsed
  split at parsed
  · cases parsed
    cases member
  · split at parsed
    · cases parsed
    · next listed entriesParsed =>
        cases parsed
        exact text_mem_of_parse_entries entriesParsed (mem_of_mem_ascending member)

theorem config_key_of_of_config_key {key : String} {operation : Operation}
    (known : Operation.ofConfigKey? key = some operation) : operation.configKey = key := by
  have found := List.find?_some known
  exact of_decide_eq_true found

namespace Config

/-- One more entry grants only what its own allow-list says. -/
theorem with_entry_grants {config next : Config} {key value : String} {operation : Operation}
    {principal : Principal} (accepted : config.withEntry key value = .ok next)
    (granted : principal ∈ (next.allowed operation).members) :
    principal ∈ (config.allowed operation).members ∨
      key = operation.configKey ∧ principal.text ∈ listedEntries value := by
  unfold withEntry at accepted
  split at accepted
  · split at accepted
    · next listed known =>
        split at accepted
        · cases accepted
        · next principals parsed =>
            cases accepted
            by_cases same : operation = listed
            · subst same
              right
              refine ⟨(config_key_of_of_config_key known).symm, ?_⟩
              exact text_mem_of_parse_allow_list parsed (by simpa using granted)
            · left
              simpa [same] using granted
    · split at accepted
      · cases accepted
        exact Or.inl granted
      · cases accepted
  · cases accepted
    exact Or.inl granted

theorem with_entries_grants {config final : Config} {entries : List (String × String)}
    {operation : Operation} {principal : Principal}
    (accepted : config.withEntries entries = .ok final)
    (granted : principal ∈ (final.allowed operation).members) :
    principal ∈ (config.allowed operation).members ∨
      ∃ value, (operation.configKey, value) ∈ entries ∧
        principal.text ∈ listedEntries value := by
  induction entries generalizing config with
  | nil =>
      cases accepted
      exact Or.inl granted
  | cons entry entries induction =>
      obtain ⟨key, value⟩ := entry
      simp only [withEntries] at accepted
      split at accepted
      · cases accepted
      · next next entryAccepted =>
          rcases induction accepted with before | ⟨later, member, listed⟩
          · rcases with_entry_grants entryAccepted before with earlier | ⟨rfl, listed⟩
            · exact Or.inl earlier
            · exact Or.inr ⟨value, by simp, listed⟩
          · exact Or.inr ⟨later, List.mem_cons_of_mem _ member, listed⟩

end Config

/-- In properties a key has one value, so an entry is what its key is looked up to. -/
theorem find_of_mem_entries {properties : Properties} {key value : String}
    (member : (key, value) ∈ properties.entries) : properties.find? key = some value := by
  have ascending : properties.entries.Pairwise fun earlier later => earlier.1 < later.1 :=
    properties.ascending
  unfold Properties.find?
  generalize properties.entries = entries at member ascending ⊢
  induction entries with
  | nil => cases member
  | cons entry entries induction =>
      have parts := List.pairwise_cons.mp ascending
      rcases List.mem_cons.mp member with rfl | later
      · simp
      · have below := parts.1 (key, value) later
        have different : entry.1 ≠ key := fun same => String.lt_irrefl _ (same ▸ below)
        rw [List.find?_cons_of_neg (by simpa using different)]
        exact induction later parts.2

/-- Whoever a policy allows is listed by the property of the operation. -/
theorem allowed_is_listed {properties : Properties} {config : Config} {operation : Operation}
    {principal : Principal} (accepted : Config.ofProperties properties = .ok config)
    (granted : (Catalog.ofConfig config).allows operation principal = true) :
    ∃ value, properties.find? operation.configKey = some value ∧
      principal.text ∈ listedEntries value := by
  have member : principal ∈ (config.allowed operation).members := by
    simpa [Catalog.ofConfig, Catalog.allows, config.lookup_allow, PrincipalSet.contains]
      using granted
  rcases Config.with_entries_grants accepted member with denied | ⟨value, entry, listed⟩
  · rw [Config.allowed_deny_all] at denied
    cases denied
  · exact ⟨value, find_of_mem_entries entry, listed⟩

end AccessWeave
