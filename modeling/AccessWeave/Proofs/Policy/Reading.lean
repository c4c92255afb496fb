import AccessWeave.Proofs.Policy.Lists
import AccessWeave.Proofs.Text.ByteOrder

/-!
# Which properties are a policy

Properties make a policy exactly when every key under the stem is a known one and every allow-list
is blank or names principals alone. The policy then allows those who are named and has the artifact
that is named. Otherwise the error is that of the offending key which is least in the order of
bytes. Keys outside the stem change nothing.
-/

namespace AccessWeave

namespace Properties

/-- Keys under the stem belong to the policy. -/
def IsOwn (key : String) : Prop := keyStem <+: key.toList

structure Valid (properties : Properties) : Prop where
  known : ∀ key value, properties.find? key = some value → IsOwn key → key ∈ recognizedKeys
  lists : ∀ (operation : Operation) value, properties.find? operation.configKey = some value →
    IsBlankText value ∨ ∀ entry ∈ listedEntries value, NamesPrincipal entry

/-- What is wrong with one property: nobody knows the key, or the entry is the first of its list
that names no principal. -/
inductive Offends (key value : String) : ConfigError → Prop
  | unknown : IsOwn key → key ∉ recognizedKeys → Offends key value (.unknownKey key)
  | malformed (operation : Operation) (before after : List String) (entry : String) :
      key = operation.configKey → ¬IsBlankText value →
      listedEntries value = before ++ entry :: after →
      (∀ other ∈ before, NamesPrincipal other) → ¬NamesPrincipal entry →
      Offends key value (.malformedPrincipal entry)

/-- The error belongs to an offending key, and the keys whose bytes come before those of that key
are in order. -/
def FirstOffence (properties : Properties) (error : ConfigError) : Prop :=
  ∃ key value, properties.find? key = some value ∧ Offends key value error ∧
    ∀ earlier other, properties.find? earlier = some other →
      Text.toBytes earlier < Text.toBytes key → ∀ fault, ¬Offends earlier other fault

end Properties

/-- The policy says what the properties say: those are allowed who are named by the property of the
operation, and the artifact is the one that is named. -/
structure Config.Reads (config : Config) (properties : Properties) : Prop where
  allowed : ∀ operation principal, principal ∈ (config.allowed operation).members ↔
    ∃ value, properties.find? operation.configKey = some value ∧
      principal.text ∈ listedEntries value
  artifact : config.bootstrapArtifact = properties.find? bootstrapKey

/-! ### One property -/

theorem of_config_key_config_key (operation : Operation) :
    Operation.ofConfigKey? operation.configKey = some operation := by
  cases operation <;> decide

theorem config_key_recognized (operation : Operation) :
    operation.configKey ∈ recognizedKeys := by
  cases operation <;> decide

theorem config_key_ne_bootstrap (operation : Operation) : operation.configKey ≠ bootstrapKey := by
  cases operation <;> decide

theorem config_key_injective {left right : Operation} (same : left.configKey = right.configKey) :
    left = right := by
  have found := of_config_key_config_key left
  rw [same, of_config_key_config_key] at found
  exact (Option.some.inj found).symm

theorem own_of_recognized {key : String} (known : key ∈ recognizedKeys) :
    Properties.IsOwn key := by
  have each : ∀ key ∈ recognizedKeys, Properties.keyStem.isPrefixOf key.toList = true := by decide
  exact List.isPrefixOf_iff_prefix.mp (each key known)

theorem key_cases (key : String) :
    ¬Properties.IsOwn key ∨ (∃ operation : Operation, key = operation.configKey) ∨
      key = bootstrapKey ∨ Properties.IsOwn key ∧ key ∉ recognizedKeys := by
  by_cases known : key ∈ recognizedKeys
  · rw [recognizedKeys, List.mem_append, List.mem_map, List.mem_singleton] at known
    rcases known with ⟨operation, -, same⟩ | same
    · exact .inr (.inl ⟨operation, same.symm⟩)
    · exact .inr (.inr (.inl same))
  · by_cases own : Properties.IsOwn key
    · exact .inr (.inr (.inr ⟨own, known⟩))
    · exact .inl own

namespace Config

open Properties (IsOwn Offends)

variable {config next final : Config} {key value : String} {error : ConfigError}
  {entries : List (String × String)}

theorem with_entry_foreign (config : Config) (value : String) (foreign : ¬IsOwn key) :
    config.withEntry key value = .ok config := by
  rw [withEntry, if_neg (mt List.isPrefixOf_iff_prefix.mp foreign)]

theorem with_entry_list (config : Config) (operation : Operation) (value : String) :
    config.withEntry operation.configKey value =
      (parseAllowList value).map (config.setAllowed operation) := by
  have own := own_of_recognized (config_key_recognized operation)
  rw [withEntry, if_pos (List.isPrefixOf_iff_prefix.mpr own), of_config_key_config_key]
  cases parseAllowList value <;> rfl

theorem with_entry_artifact (config : Config) (value : String) :
    config.withEntry bootstrapKey value = .ok { config with bootstrapArtifact := some value } :=
  rfl

theorem with_entry_unknown (config : Config) (value : String) (own : IsOwn key)
    (unknown : key ∉ recognizedKeys) : config.withEntry key value = .error (.unknownKey key) := by
  have noList : Operation.ofConfigKey? key = none := by
    cases found : Operation.ofConfigKey? key with
    | none => rfl
    | some operation =>
        rw [← config_key_of_of_config_key found] at unknown
        exact absurd (config_key_recognized operation) unknown
  have noArtifact : key ≠ bootstrapKey := by
    rintro rfl
    exact unknown (by decide)
  rw [withEntry, if_pos (List.isPrefixOf_iff_prefix.mpr own), noList]
  exact if_neg noArtifact

/-- A property is refused for what is wrong with it, whatever has been read before. -/
theorem with_entry_error_iff :
    config.withEntry key value = .error error ↔ Offends key value error := by
  rcases key_cases key with foreign | ⟨operation, rfl⟩ | rfl | ⟨own, unknown⟩
  · rw [with_entry_foreign config value foreign]
    refine iff_of_false (by simp) ?_
    rintro (⟨own, -⟩ | ⟨operation, -, -, -, rfl, -⟩)
    · exact foreign own
    · exact foreign (own_of_recognized (config_key_recognized operation))
  · have refused : config.withEntry operation.configKey value = .error error ↔
        parseAllowList value = .error error := by
      rw [with_entry_list]
      cases parseAllowList value <;> simp [Except.map]
    rw [refused, parse_allow_list_error_iff]
    constructor
    · rintro ⟨blank, before, entry, after, split, named, nobody, rfl⟩
      exact .malformed operation before after entry rfl blank split named nobody
    · rintro (⟨-, unknown⟩ | ⟨_, before, after, entry, -, blank, split, named, nobody⟩)
      · exact absurd (config_key_recognized operation) unknown
      · exact ⟨blank, before, entry, after, split, named, nobody, rfl⟩
  · rw [with_entry_artifact]
    refine iff_of_false (by simp) ?_
    rintro (⟨-, unknown⟩ | ⟨operation, -, -, -, same, -⟩)
    · exact unknown (by decide)
    · exact config_key_ne_bootstrap operation same.symm
  · rw [with_entry_unknown config value own unknown, Except.error.injEq]
    constructor
    · rintro rfl
      exact .unknown own unknown
    · rintro (⟨-, -⟩ | ⟨operation, -, -, -, rfl, -⟩)
      · rfl
      · exact absurd (config_key_recognized operation) unknown

/-- All that reading one property can do to a policy. -/
theorem with_entry_cases (accepted : config.withEntry key value = .ok next) :
    ¬IsOwn key ∧ next = config ∨
      (∃ operation principals, key = operation.configKey ∧ parseAllowList value = .ok principals ∧
        next = config.setAllowed operation principals) ∨
      key = bootstrapKey ∧ next = { config with bootstrapArtifact := some value } := by
  rcases key_cases key with foreign | ⟨operation, rfl⟩ | rfl | ⟨own, unknown⟩
  · rw [with_entry_foreign config value foreign, Except.ok.injEq] at accepted
    exact .inl ⟨foreign, accepted.symm⟩
  · rw [with_entry_list] at accepted
    cases read : parseAllowList value with
    | error error => simp [read, Except.map] at accepted
    | ok principals =>
        rw [read] at accepted
        exact .inr (.inl ⟨operation, principals, rfl, rfl, (Except.ok.inj accepted).symm⟩)
  · rw [with_entry_artifact, Except.ok.injEq] at accepted
    exact .inr (.inr ⟨rfl, accepted.symm⟩)
  · rw [with_entry_unknown config value own unknown] at accepted
    cases accepted

theorem with_entry_allowed (accepted : config.withEntry key value = .ok next)
    (operation : Operation) :
    if key = operation.configKey then parseAllowList value = .ok (next.allowed operation)
    else next.allowed operation = config.allowed operation := by
  rcases with_entry_cases accepted with
    ⟨foreign, rfl⟩ | ⟨listed, principals, rfl, read, rfl⟩ | ⟨rfl, rfl⟩
  · rw [if_neg]
    rintro rfl
    exact foreign (own_of_recognized (config_key_recognized operation))
  · by_cases same : operation = listed
    · rw [if_pos (by rw [same]), read, allowed_set_allowed, if_pos same]
    · rw [if_neg fun keys => same (config_key_injective keys).symm, allowed_set_allowed,
        if_neg same]
  · rw [if_neg (config_key_ne_bootstrap operation).symm]
    rfl

theorem with_entry_bootstrap (accepted : config.withEntry key value = .ok next) :
    if key = bootstrapKey then next.bootstrapArtifact = some value
    else next.bootstrapArtifact = config.bootstrapArtifact := by
  rcases with_entry_cases accepted with
    ⟨foreign, rfl⟩ | ⟨listed, principals, rfl, -, rfl⟩ | ⟨rfl, rfl⟩
  · rw [if_neg]
    rintro rfl
    exact foreign (own_of_recognized (by decide))
  · rw [if_neg (config_key_ne_bootstrap listed)]
    rfl
  · rw [if_pos rfl]

/-! ### All properties -/

theorem with_entries_cons (config : Config) (key value : String)
    (entries : List (String × String)) :
    config.withEntries ((key, value) :: entries) =
      (config.withEntry key value).bind fun next => next.withEntries entries := by
  rw [withEntries]
  cases config.withEntry key value <;> rfl

/-- Either no property is refused, or the first one that is decides the error. -/
theorem with_entries_cases (config : Config) (entries : List (String × String)) :
    (∃ final, config.withEntries entries = .ok final ∧
      ∀ entry ∈ entries, ∀ error, ¬Offends entry.1 entry.2 error) ∨
    ∃ before key value after error, entries = before ++ (key, value) :: after ∧
      (∀ entry ∈ before, ∀ error, ¬Offends entry.1 entry.2 error) ∧ Offends key value error ∧
      config.withEntries entries = .error error := by
  induction entries generalizing config with
  | nil => exact .inl ⟨config, rfl, by simp⟩
  | cons entry entries induction =>
      obtain ⟨key, value⟩ := entry
      rw [with_entries_cons]
      cases step : config.withEntry key value with
      | error error =>
          exact .inr ⟨[], key, value, entries, error, rfl, by simp,
            with_entry_error_iff.mp step, rfl⟩
      | ok next =>
          have fine : ∀ error, ¬Offends key value error := by
            intro error offends
            rw [with_entry_error_iff.mpr offends] at step
            cases step
          rcases induction next with
            ⟨final, read, others⟩ | ⟨before, name, content, after, error, split, others, fault⟩
          · refine .inl ⟨final, read, ?_⟩
            rw [List.forall_mem_cons]
            exact ⟨fine, others⟩
          · refine .inr ⟨(key, value) :: before, name, content, after, error, ?_, ?_, fault⟩
            · rw [split, List.cons_append]
            · rw [List.forall_mem_cons]
              exact ⟨fine, others⟩

/-- What one key decides is what its property says, and stays as it was when it has none. -/
theorem with_entries_decided {View : Type} (view : Config → View) {target : String}
    (states : String → View → Prop)
    (step : ∀ {config next : Config} {key value : String},
      config.withEntry key value = .ok next →
        if key = target then states value (view next) else view next = view config)
    (ascending : Ascending Prod.fst entries) (accepted : config.withEntries entries = .ok final) :
    (∀ value, (target, value) ∈ entries → states value (view final)) ∧
      ((∀ value, (target, value) ∉ entries) → view final = view config) := by
  induction entries generalizing config with
  | nil =>
      cases accepted
      exact ⟨by simp, fun _ => rfl⟩
  | cons entry entries induction =>
      obtain ⟨key, value⟩ := entry
      obtain ⟨below, ascending⟩ := List.pairwise_cons.mp ascending
      rw [with_entries_cons] at accepted
      cases read : config.withEntry key value with
      | error error => simp [read, Except.bind] at accepted
      | ok next =>
          have here := step read
          rw [read] at accepted
          obtain ⟨said, kept⟩ := induction ascending accepted
          by_cases same : key = target
          · rw [if_pos same] at here
            have absent : ∀ other, (target, other) ∉ entries := by
              intro other member
              have above := below _ member
              rw [same] at above
              exact String.lt_irrefl _ above
            rw [kept absent]
            refine ⟨?_, fun none => absurd (by rw [same]; exact List.mem_cons_self) (none value)⟩
            intro other member
            rcases List.mem_cons.mp member with first | later
            · rw [(Prod.mk.inj first).2]
              exact here
            · exact absurd later (absent other)
          · rw [if_neg same] at here
            constructor
            · intro other member
              rcases List.mem_cons.mp member with first | later
              · exact absurd (Prod.mk.inj first).1.symm same
              · exact said other later
            · intro none
              rw [← here]
              exact kept fun other member => none other (List.mem_cons_of_mem _ member)

/-- Own keys alone are read. -/
theorem with_entries_own [DecidablePred IsOwn] (config : Config)
    (entries : List (String × String)) :
    config.withEntries entries =
      config.withEntries (entries.filter fun entry => IsOwn entry.1) := by
  induction entries generalizing config with
  | nil => rfl
  | cons entry entries induction =>
      obtain ⟨key, value⟩ := entry
      by_cases own : IsOwn key
      · rw [List.filter_cons_of_pos (by simpa using own), with_entries_cons, with_entries_cons]
        cases config.withEntry key value with
        | error error => rfl
        | ok next => exact induction next
      · rw [List.filter_cons_of_neg (by simpa using own), with_entries_cons,
          with_entry_foreign config value own]
        exact induction config

variable {properties other : Properties}

theorem of_properties_reads (accepted : ofProperties properties = .ok config) :
    config.Reads properties where
  allowed := by
    intro operation principal
    obtain ⟨said, kept⟩ := with_entries_decided (fun config => config.allowed operation)
      (fun value principals => parseAllowList value = .ok principals)
      (fun accepted => with_entry_allowed accepted operation) properties.ascending accepted
    simp only [Properties.find_some_iff]
    by_cases some : ∃ value, (operation.configKey, value) ∈ properties.entries
    · obtain ⟨value, entry⟩ := some
      rw [(parse_allow_list_ok (said value entry)).2 principal]
      constructor
      · exact fun listed => ⟨value, entry, listed⟩
      · rintro ⟨other, same, listed⟩
        rwa [← (Prod.mk.inj (eq_of_same_key properties.ascending entry same rfl)).2] at listed
    · rw [kept fun value entry => some ⟨value, entry⟩, allowed_deny_all]
      exact iff_of_false List.not_mem_nil fun ⟨value, entry, _⟩ => some ⟨value, entry⟩
  artifact := by
    obtain ⟨said, kept⟩ := with_entries_decided bootstrapArtifact
      (fun value artifact => artifact = some value) with_entry_bootstrap
      properties.ascending accepted
    cases found : properties.find? bootstrapKey with
    | some value => exact said value (Properties.find_some_iff.mp found)
    | none =>
        apply kept
        intro value entry
        rw [Properties.find_some_iff.mpr entry] at found
        cases found

theorem of_properties_cases (properties : Properties) :
    (∃ config, ofProperties properties = .ok config ∧ properties.Valid) ∨
      ∃ error, ofProperties properties = .error error ∧ properties.FirstOffence error := by
  rcases with_entries_cases denyAll properties.entries with
    ⟨config, read, fine⟩ | ⟨before, key, value, after, error, split, fine, offends, failed⟩
  · refine .inl ⟨config, read, ?_, ?_⟩
    · intro key value found own
      by_contra unknown
      exact fine _ (Properties.find_some_iff.mp found) _ (.unknown own unknown)
    · intro operation value found
      rcases parse_allow_list_cases value with
        ⟨principals, -, accepted, -⟩ | ⟨blank, before, entry, after, split, named, nobody⟩
      · exact accepted
      · exact absurd (.malformed operation before after entry rfl blank split named nobody)
          (fine _ (Properties.find_some_iff.mp found) _)
  · refine .inr ⟨error, failed, key, value, ?_, offends, ?_⟩
    · rw [Properties.find_some_iff, split]
      exact List.mem_append_right _ List.mem_cons_self
    · intro earlier content found below
      rw [Text.to_bytes_lt_iff] at below
      have entry := Properties.find_some_iff.mp found
      have ascending := properties.ascending
      rw [split] at entry ascending
      obtain ⟨-, behind, -⟩ := List.pairwise_append.mp ascending
      -- What stands behind the offending key has a larger key.
      rcases List.mem_append.mp entry with early | late
      · exact fine _ early
      · rcases List.mem_cons.mp late with here | later
        · rw [(Prod.mk.inj here).1] at below
          exact absurd below (String.lt_irrefl _)
        · have above := (List.pairwise_cons.mp behind).1 _ later
          exact absurd (String.lt_trans below above) (String.lt_irrefl _)

theorem not_offends_of_valid (valid : properties.Valid) (found : properties.find? key = some value)
    (error : ConfigError) : ¬Offends key value error := by
  rintro (⟨own, unknown⟩ | ⟨operation, before, after, entry, rfl, blank, split, -, nobody⟩)
  · exact unknown (valid.known key value found own)
  · rcases valid.lists operation value found with empty | named
    · exact blank empty
    · apply nobody (named entry _)
      rw [split]
      exact List.mem_append_right _ List.mem_cons_self

theorem not_valid_of_first_offence (offence : properties.FirstOffence error) :
    ¬properties.Valid := by
  obtain ⟨key, value, found, offends, -⟩ := offence
  exact fun valid => not_offends_of_valid valid found error offends

theorem first_offence_unique {first second : ConfigError}
    (offence : properties.FirstOffence first) (again : properties.FirstOffence second) :
    first = second := by
  obtain ⟨key, value, found, offends, before⟩ := offence
  obtain ⟨name, content, foundToo, offendsToo, beforeToo⟩ := again
  have same : key = name := by
    apply key_eq_of_not_lt
    · intro below
      exact beforeToo key value found (Text.to_bytes_lt_iff.mpr below) first offends
    · intro below
      exact before name content foundToo (Text.to_bytes_lt_iff.mpr below) second offendsToo
  subst same
  rw [found, Option.some.injEq] at foundToo
  subst foundToo
  -- Reading the property alone fails with both errors.
  have failed : denyAll.withEntry key value = .error first := with_entry_error_iff.mpr offends
  rw [with_entry_error_iff.mpr offendsToo, Except.error.injEq] at failed
  exact failed.symm

theorem Reads.unique {left right : Config} (first : left.Reads properties)
    (second : right.Reads properties) : left = right := by
  apply ext_allowed
  · intro operation
    apply PrincipalSet.ext_members
    intro principal
    rw [first.allowed, second.allowed]
  · rw [first.artifact, second.artifact]

theorem of_properties_ok_iff :
    ofProperties properties = .ok config ↔ properties.Valid ∧ config.Reads properties := by
  rcases of_properties_cases properties with ⟨found, read, valid⟩ | ⟨error, failed, offence⟩
  · rw [read, Except.ok.injEq]
    constructor
    · rintro rfl
      exact ⟨valid, of_properties_reads read⟩
    · exact fun reads => (of_properties_reads read).unique reads.2
  · rw [failed]
    exact iff_of_false (by simp) fun reads => not_valid_of_first_offence offence reads.1

theorem of_properties_error_iff :
    ofProperties properties = .error error ↔ properties.FirstOffence error := by
  rcases of_properties_cases properties with ⟨found, read, valid⟩ | ⟨fault, failed, offence⟩
  · rw [read]
    exact iff_of_false (by simp) fun offence => not_valid_of_first_offence offence valid
  · rw [failed, Except.error.injEq]
    constructor
    · rintro rfl
      exact offence
    · exact first_offence_unique offence

/-- Properties with the same own keys are the same policy, or fail with the same error. -/
theorem of_properties_own
    (same : ∀ key, IsOwn key → other.find? key = properties.find? key) :
    ofProperties other = ofProperties properties := by
  classical
  have entries : (other.entries.filter fun entry => IsOwn entry.1)
      = properties.entries.filter fun entry => IsOwn entry.1 := by
    apply ascending_ext (other.ascending.filter _) (properties.ascending.filter _)
    rintro ⟨key, value⟩
    simp only [List.mem_filter, decide_eq_true_eq, ← Properties.find_some_iff]
    exact and_congr_left fun own => by rw [same key own]
  rw [ofProperties, ofProperties, with_entries_own, entries, ← with_entries_own]

end Config

/-- Properties are accepted exactly when they are valid, and the policy then says what they say. The
error is otherwise that of the first offending key. Keys outside the stem may be added, changed or
taken away. -/
theorem policy_is_read_exactly (properties : Properties) :
    ((∃ config, Config.ofProperties properties = .ok config) ↔ properties.Valid) ∧
      (∀ config, Config.ofProperties properties = .ok config → config.Reads properties) ∧
      (∀ error, Config.ofProperties properties = .error error ↔
        properties.FirstOffence error) ∧
      ∀ other : Properties,
        (∀ key, Properties.IsOwn key → other.find? key = properties.find? key) →
          Config.ofProperties other = Config.ofProperties properties := by
  refine ⟨?_, ?_, fun error => Config.of_properties_error_iff, ?_⟩
  · constructor
    · rintro ⟨config, read⟩
      exact (Config.of_properties_ok_iff.mp read).1
    · intro valid
      rcases Config.of_properties_cases properties with
        ⟨config, read, -⟩ | ⟨error, -, offence⟩
      · exact ⟨config, read⟩
      · exact absurd valid (Config.not_valid_of_first_offence offence)
  · exact fun config read => (Config.of_properties_ok_iff.mp read).2
  · exact fun other same => Config.of_properties_own same

example :
    Config.ofProperties (.ofList
      [("callguard.system.exec.allow", "module a.b, module 1c ,"), ("callguard.user", "x")])
      = .error (.malformedPrincipal "module 1c") := by
  decide +kernel

end AccessWeave
