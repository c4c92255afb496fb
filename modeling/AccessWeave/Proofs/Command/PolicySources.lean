import AccessWeave.Command.PolicyCheck
import AccessWeave.Proofs.Policy.Environment
import AccessWeave.Proofs.Policy.Overrides

/-!
# The sources of a policy

The properties of a policy come from a file, from the environment and from overrides. For each key
the last source that sets it decides, and within a source the last entry. The environment has no
order of its own: which of its variables is the last matters exactly when two that mean one key
have different texts, and that takes a name with small letters or points.
-/

namespace AccessWeave

open Properties (VariableSets VariablesAgree UpperCaseName OverrideSets FirstBroken
  overrideEntry? environmentStem)

/-! ### The order of variables -/

/-- Variables in any order give the same properties exactly when those whose names mean one key
agree, and then they make the same policy or fail with the same error. Different variables whose
names are in capitals always agree. -/
theorem variable_order_is_immaterial_iff (environment : List (String × String)) :
    ((∀ other, other.Perm environment →
        Properties.ofEnvironment other = Properties.ofEnvironment environment) ↔
      VariablesAgree environment) ∧
    (VariablesAgree environment → ∀ other, other.Perm environment →
      Config.ofProperties (.ofEnvironment other)
          = Config.ofProperties (.ofEnvironment environment) ∧
        ∀ (source : PolicySource) (tree : Tree),
          source.load other tree = source.load environment tree) ∧
    ((environment.map Prod.fst).Nodup →
      (∀ entry ∈ environment, environmentStem <+: entry.1.toList → UpperCaseName entry.1) →
        VariablesAgree environment) := by
  refine ⟨Properties.of_environment_perm_iff environment, ?_,
    Properties.variables_agree_of_upper_case⟩
  intro agree other perm
  have same := (Properties.of_environment_perm_iff environment).mpr agree other perm
  refine ⟨by rw [same], ?_⟩
  intro source tree
  rw [PolicySource.load, PolicySource.load, PolicySource.environmentEntries,
    PolicySource.environmentEntries, same]

/-- One key, once in capitals and once in small letters. -/
def twoSpellings : List (String × String) :=
  [("CALLGUARD_RUNTIME_EXIT_ALLOW", "module app.a"),
    ("CALLGUARD_runtime_exit_allow", "module app.b")]

/-- Who may exit is a matter of the order in which the two variables are listed. -/
theorem order_decides_between_spellings :
    (twoSpellings.map Prod.fst).Nodup ∧ twoSpellings.reverse.Perm twoSpellings ∧
      Properties.ofEnvironment twoSpellings
        = .ofList [("callguard.runtime.exit.allow", "module app.b")] ∧
      Properties.ofEnvironment twoSpellings.reverse
        = .ofList [("callguard.runtime.exit.allow", "module app.a")] ∧
      ((Config.ofProperties (.ofEnvironment twoSpellings)).toOption.map fun config =>
        (config.allowed .runtimeExit).members) = some [⟨"app.b"⟩] ∧
      ((Config.ofProperties (.ofEnvironment twoSpellings.reverse)).toOption.map fun config =>
        (config.allowed .runtimeExit).members) = some [⟨"app.a"⟩] := by
  exact ⟨by decide, List.reverse_perm _, by decide +kernel, by decide +kernel,
    by decide +kernel, by decide +kernel⟩

/-! ### The order of sources -/

namespace PolicySource

variable {source : PolicySource} {tree : Tree} {file properties : Properties}
  {environment : List (String × String)} {before : List String} {argument key value : String}

/-- The text of a key when overrides lie over the environment, and both over a file. -/
def Gives (source : PolicySource) (environment : List (String × String)) (file : Properties)
    (key value : String) : Prop :=
  LastSets OverrideSets source.overrides key value ∨
    NoneSets OverrideSets source.overrides key ∧
      (source.readsEnvironment = true ∧ LastSets VariableSets environment key value ∨
        (source.readsEnvironment = true → NoneSets VariableSets environment key) ∧
          file.find? key = some value)

theorem find_layered_iff (source : PolicySource) (environment : List (String × String))
    (file : Properties) :
    (file.overlay (source.environmentEntries environment)).find? key = some value ↔
      source.readsEnvironment = true ∧ LastSets VariableSets environment key value ∨
        (source.readsEnvironment = true → NoneSets VariableSets environment key) ∧
          file.find? key = some value := by
  unfold environmentEntries
  cases source.readsEnvironment with
  | true =>
      rw [if_pos rfl, Properties.find_overlay_entries, Option.or_eq_some_iff,
        Properties.find_of_environment_iff,
        eq_none_iff_of_last fun _ => Properties.find_of_environment_iff]
      simp
  | false => simp [Properties.overlay]

/-- The three sources in the form in which they are put together. -/
theorem gives_iff :
    source.Gives environment file key value ↔
      ((file.overlay (source.environmentEntries environment)).overlay
        (source.overrides.filterMap overrideEntry?)).find? key = some value := by
  rw [Properties.find_overlay, Option.or_eq_some_iff, find_layered_iff,
    Properties.find_of_list_iff Properties.override_entry_iff,
    Properties.find_of_list_none_iff Properties.override_entry_iff, Gives]

theorem load_fine (loaded : source.fileProperties tree = .ok file)
    (fine : ∀ argument ∈ source.overrides, '=' ∈ argument.toList) :
    source.load environment tree = .ok
      ((file.overlay (source.environmentEntries environment)).overlay
        (source.overrides.filterMap overrideEntry?)) := by
  rw [load, loaded]
  dsimp only
  rw [Properties.apply_overrides_fine _ fine]

theorem load_broken (loaded : source.fileProperties tree = .ok file)
    (broken : FirstBroken source.overrides before argument) :
    source.load environment tree
      = .error (.plain (ConfigError.invalidOverride argument).message) := by
  rw [load, loaded]
  dsimp only
  rw [Properties.apply_overrides_broken _ broken]

theorem load_fails_iff (loaded : source.fileProperties tree = .ok file) :
    (∃ failure, source.load environment tree = .error failure) ↔
      ∃ argument ∈ source.overrides, '=' ∉ argument.toList := by
  rcases Properties.fine_or_first_broken source.overrides with
    fine | ⟨before, argument, broken⟩
  · rw [load_fine loaded fine]
    refine iff_of_false (by simp) ?_
    rintro ⟨argument, listed, noSign⟩
    exact noSign (fine argument listed)
  · refine iff_of_true ⟨_, load_broken loaded broken⟩ ?_
    obtain ⟨⟨after, split⟩, -, noSign⟩ := broken
    refine ⟨argument, ?_, noSign⟩
    rw [split]
    exact List.mem_append_right _ List.mem_cons_self

theorem find_loaded_iff (loaded : source.fileProperties tree = .ok file)
    (succeeded : source.load environment tree = .ok properties) :
    properties.find? key = some value ↔ source.Gives environment file key value := by
  rcases Properties.fine_or_first_broken source.overrides with
    fine | ⟨before, argument, broken⟩
  · rw [load_fine loaded fine, Except.ok.injEq] at succeeded
    rw [← succeeded, gives_iff]
  · rw [load_broken loaded broken] at succeeded
    cases succeeded

/-- When the file is read, loading fails exactly for an override without an equals sign and reports
the first one. Otherwise overrides win over the environment and that over the file, and in each of
them the last entry wins. Overrides in front of a broken one have been put on, those behind it have
not. -/
theorem later_source_wins (loaded : source.fileProperties tree = .ok file)
    (environment : List (String × String)) :
    ((∃ failure, source.load environment tree = .error failure) ↔
      ∃ argument ∈ source.overrides, '=' ∉ argument.toList) ∧
    (∀ before argument, FirstBroken source.overrides before argument →
      source.load environment tree
        = .error (.plain (ConfigError.invalidOverride argument).message)) ∧
    (∀ properties, source.load environment tree = .ok properties →
      ∀ key value, properties.find? key = some value ↔ source.Gives environment file key value) ∧
    ∀ (properties : Properties) (overrides : List String) argument,
      (properties.applyOverrides overrides).1 = some argument →
        ∃ before, FirstBroken overrides before argument ∧
          properties.applyOverrides before = (none, (properties.applyOverrides overrides).2) ∧
          ∀ key value, (properties.applyOverrides overrides).2.find? key = some value ↔
            LastSets OverrideSets before key value ∨
              NoneSets OverrideSets before key ∧ properties.find? key = some value := by
  refine ⟨load_fails_iff loaded, fun before argument broken => load_broken loaded broken,
    fun properties succeeded key value => find_loaded_iff loaded succeeded, ?_⟩
  intro properties overrides argument failed
  obtain ⟨before, broken⟩ := properties.apply_overrides_fails_iff.mp failed
  have front := properties.apply_overrides_front broken
  refine ⟨before, broken, front, ?_⟩
  intro key value
  rw [← properties.find_overrides_iff broken.2.1, front]

/-- A file, an environment with two spellings of a key, and overrides that repeat a key. -/
def layeredTree : Tree where
  current := ["w"]
  entries :=
    [(["w"], .directory),
     (["w", "policy.properties"], .file (Text.toBytes
       ("callguard.runtime.exit.allow = module app.a\r\n"
         ++ "callguard.network.connect.allow: module app.a\n")))]

def layeredFile : Properties :=
  .ofList [("callguard.network.connect.allow", "module app.a"),
    ("callguard.runtime.exit.allow", "module app.a")]

def layeredEnvironment : List (String × String) :=
  [("CALLGUARD_RUNTIME_EXIT_ALLOW", "module app.b"),
    ("CALLGUARD_SYSTEM_EXEC_ALLOW", "module app.b"),
    ("CALLGUARD_system_exec_allow", "module app.c")]

def layeredSource (last : String) : PolicySource :=
  ⟨some ⟨"policy.properties"⟩, true,
    [" callguard.runtime.exit.allow = module app.d", "note=a=b", last]⟩

theorem each_source_decides_a_key :
    (∀ last, (layeredSource last).fileProperties layeredTree = .ok layeredFile) ∧
      (∃ properties,
        (layeredSource "callguard.runtime.exit.allow=module app.e ").load layeredEnvironment
          layeredTree = .ok properties ∧
        properties.find? "callguard.runtime.exit.allow" = some "module app.e" ∧
        properties.find? "note" = some "a=b" ∧
        properties.find? "callguard.system.exec.allow" = some "module app.c" ∧
        properties.find? "callguard.network.connect.allow" = some "module app.a") ∧
      (layeredSource "app.e").load layeredEnvironment layeredTree
        = .error (.plain "invalid override 'app.e': expected key=value") := by
  have loaded : ∀ last, (layeredSource last).fileProperties layeredTree = .ok layeredFile := by
    intro last
    change (layeredSource "").fileProperties layeredTree = .ok layeredFile
    decide +kernel
  refine ⟨loaded, ?_, ?_⟩
  · obtain ⟨fails, -, gives, -⟩ := later_source_wins
      (loaded "callguard.runtime.exit.allow=module app.e ") layeredEnvironment
    cases read : (layeredSource "callguard.runtime.exit.allow=module app.e ").load
        layeredEnvironment layeredTree with
    | error failure => exact absurd (fails.mp ⟨failure, read⟩) (by decide)
    | ok properties =>
        let source := layeredSource "callguard.runtime.exit.allow=module app.e "
        have layers : (layeredFile.overlay (source.environmentEntries layeredEnvironment)).overlay
            (source.overrides.filterMap overrideEntry?)
              = .ofList [("callguard.network.connect.allow", "module app.a"),
                ("callguard.runtime.exit.allow", "module app.e"),
                ("callguard.system.exec.allow", "module app.c"), ("note", "a=b")] := by
          decide +kernel
        have found := gives properties read
        refine ⟨properties, rfl, ?_, ?_, ?_, ?_⟩
        all_goals
          refine (found _ _).mpr (gives_iff.mpr ?_)
          rw [layers]
          decide +kernel
  · obtain ⟨-, reports, -, -⟩ := later_source_wins (loaded "app.e") layeredEnvironment
    have broken : FirstBroken (layeredSource "app.e").overrides
        [" callguard.runtime.exit.allow = module app.d", "note=a=b"] "app.e" :=
      ⟨⟨[], rfl⟩, by decide, by decide⟩
    rw [reports _ _ broken]
    decide +kernel

end PolicySource

end AccessWeave
