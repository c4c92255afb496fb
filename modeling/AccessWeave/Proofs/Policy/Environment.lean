import AccessWeave.Proofs.Policy.Overlays
import Mathlib.Data.List.Forall2
import Mathlib.Data.List.Nodup

/-!
# Variables and the keys that they set

A variable under the stem sets the key that is spelled by the rest of its name, with points for
lines and small letters for capitals. Two names set one key when they differ in nothing else, so
names in capitals that hold no point have keys of their own.
-/

namespace AccessWeave

namespace Properties

/-- The character of a key that a character of a variable's name stands for. -/
def keyCharacter (character : Char) : Char :=
  if character = '_' then '.' else character.toLower

def VariableSets (entry : String × String) (key value : String) : Prop :=
  (∃ rest, rest ≠ [] ∧ entry.1.toList = environmentStem ++ rest ∧
    key.toList = keyStem ++ rest.map keyCharacter) ∧ entry.2 = value

/-- Two characters that a key does not tell apart: one letter in either case, or a line and a
point. -/
def Interchangeable (first second : Char) : Prop :=
  first.toLower = second.toLower ∨ (first = '_' ∨ first = '.') ∧ (second = '_' ∨ second = '.')

/-- Names under the stem that differ in interchangeable characters alone. -/
def NamesAlike (first second : String) : Prop :=
  ∃ rest other, rest ≠ [] ∧ first.toList = environmentStem ++ rest ∧
    second.toList = environmentStem ++ other ∧ List.Forall₂ Interchangeable rest other

/-- Variables whose names mean one key have one text. -/
def VariablesAgree (environment : List (String × String)) : Prop :=
  ∀ first ∈ environment, ∀ second ∈ environment, NamesAlike first.1 second.1 → first.2 = second.2

/-- The way in which variables are documented: no small letters, and lines for points. -/
def Capital (character : Char) : Prop := character.isLower = false ∧ character ≠ '.'

def UpperCaseName (name : String) : Prop := ∀ character ∈ name.toList, Capital character

def environmentPair? (entry : String × String) : Option (String × String) :=
  (variableKey? entry.1).map fun key => (key, entry.2)

theorem of_environment_eq (environment : List (String × String)) :
    ofEnvironment environment = ofList (environment.filterMap environmentPair?) :=
  rfl

theorem variable_key_iff {name key : String} :
    variableKey? name = some key ↔ ∃ rest, rest ≠ [] ∧ name.toList = environmentStem ++ rest ∧
      key.toList = keyStem ++ rest.map keyCharacter := by
  have spelled : ∀ rest : List Char, String.ofList (keyStem ++ rest.map keyCharacter) = key ↔
      key.toList = keyStem ++ rest.map keyCharacter := by
    intro rest
    rw [← String.toList_inj, String.toList_ofList, eq_comm]
  unfold variableKey?
  constructor
  · intro found
    split at found
    · cases found
    · cases found
    · next rest filled cut =>
        rw [List.isPrefixOf?_eq_some_iff_append_eq] at cut
        exact ⟨rest, filled, cut.symm, (spelled rest).mp (Option.some.inj found)⟩
  · rintro ⟨rest, filled, under, key⟩
    rw [List.isPrefixOf?_eq_some_iff_append_eq.mpr under.symm]
    cases rest with
    | nil => exact absurd rfl filled
    | cons first others => exact congrArg some ((spelled _).mpr key)

theorem environment_pair_iff (entry : String × String) (key value : String) :
    environmentPair? entry = some (key, value) ↔ VariableSets entry key value := by
  rw [environmentPair?, VariableSets, ← variable_key_iff]
  simp [Option.map_eq_some_iff]

/-! ### Names that set one key -/

/-- Only capitals change, each to the small letter 32 places behind it. -/
theorem to_lower_cases (character : Char) :
    character.isUpper = false ∧ character.toLower = character ∨
      character.isUpper = true ∧ character.toLower.isLower = true ∧
        character.toLower.toNat = character.toNat + 32 := by
  by_cases capital : character.val ≥ 'A'.val ∧ character.val ≤ 'Z'.val
  · right
    have range : 65 ≤ character.toNat ∧ character.toNat ≤ 90 := capital
    have moved : character.toLower.val = character.val + 32 := congrArg Char.val (dif_pos capital)
    have behind : character.toLower.toNat = character.toNat + 32 := by
      have small : character.toNat + 32 < 2 ^ 32 := by omega
      rw [Char.toNat, moved, UInt32.toNat_add]
      exact Nat.mod_eq_of_lt small
    have ends : 97 ≤ character.toLower.toNat ∧ character.toLower.toNat ≤ 122 := by omega
    exact ⟨decide_eq_true capital,
      Bool.and_eq_true_iff.mpr ⟨decide_eq_true ends.1, decide_eq_true ends.2⟩, behind⟩
  · exact .inl ⟨decide_eq_false capital, dif_neg capital⟩

/-- What is no letter has one case. -/
theorem to_lower_eq_iff {character sign : Char} (noLetter : sign.isAlpha = false) :
    character.toLower = sign ↔ character = sign := by
  obtain ⟨noCapital, noSmall⟩ := Bool.or_eq_false_iff.mp noLetter
  rcases to_lower_cases character with ⟨-, kept⟩ | ⟨capital, small, -⟩
  · rw [kept]
  · constructor
    · rintro rfl
      rw [small] at noSmall
      cases noSmall
    · rintro rfl
      rw [capital] at noCapital
      cases noCapital

theorem key_character_eq_iff {first second : Char} :
    keyCharacter first = keyCharacter second ↔ Interchangeable first second := by
  have line : ∀ {character : Char}, character.toLower = '_' ↔ character = '_' :=
    to_lower_eq_iff rfl
  have point : ∀ {character : Char}, character.toLower = '.' ↔ character = '.' :=
    to_lower_eq_iff rfl
  unfold keyCharacter Interchangeable
  by_cases firstLine : first = '_'
  · by_cases secondLine : second = '_'
    · simp [firstLine, secondLine]
    · rw [if_pos firstLine, if_neg secondLine, eq_comm, point, firstLine, line.mpr rfl,
        eq_comm (a := '_'), line]
      simp [secondLine]
  · by_cases secondLine : second = '_'
    · rw [if_neg firstLine, if_pos secondLine, point, secondLine, line.mpr rfl, line]
      simp [firstLine]
    · rw [if_neg firstLine, if_neg secondLine, or_iff_right firstLine, or_iff_right secondLine,
        or_iff_left_of_imp]
      rintro ⟨rfl, rfl⟩
      rfl

theorem key_characters_eq_iff {rest other : List Char} :
    rest.map keyCharacter = other.map keyCharacter ↔
      List.Forall₂ Interchangeable rest other := by
  rw [← List.forall₂_eq_eq_eq, List.forall₂_map_left_iff, List.forall₂_map_right_iff]
  simp only [key_character_eq_iff]

theorem variables_set_one_key_iff {first second : String × String} :
    (∃ key, VariableSets first key first.2 ∧ VariableSets second key second.2) ↔
      NamesAlike first.1 second.1 := by
  constructor
  · rintro ⟨key, ⟨⟨rest, filled, under, spelled⟩, -⟩, ⟨other, -, underToo, spelledToo⟩, -⟩
    refine ⟨rest, other, filled, under, underToo, key_characters_eq_iff.mp ?_⟩
    rwa [spelled, List.append_right_inj] at spelledToo
  · rintro ⟨rest, other, filled, under, underToo, alike⟩
    have otherFilled : other ≠ [] := by
      rintro rfl
      cases alike
      exact filled rfl
    refine ⟨String.ofList (keyStem ++ rest.map keyCharacter),
      ⟨⟨rest, filled, under, String.toList_ofList⟩, rfl⟩, ⟨other, otherFilled, underToo, ?_⟩, rfl⟩
    rw [String.toList_ofList, key_characters_eq_iff.mpr alike]

theorem eq_of_interchangeable {first second : Char} (capital : Capital first)
    (capitalToo : Capital second) (alike : Interchangeable first second) : first = second := by
  rcases alike with same | ⟨separates, separatesToo⟩
  · rcases to_lower_cases first with ⟨-, kept⟩ | ⟨-, small, behind⟩
    · rcases to_lower_cases second with ⟨-, keptToo⟩ | ⟨-, smallToo, -⟩
      · rw [← kept, same, keptToo]
      · rw [← same, kept, capital.1] at smallToo
        cases smallToo
    · rcases to_lower_cases second with ⟨-, keptToo⟩ | ⟨-, -, behindToo⟩
      · rw [same, keptToo, capitalToo.1] at small
        cases small
      · rw [same, behindToo, Nat.add_right_cancel_iff] at behind
        exact (Char.toNat_inj.mp behind).symm
  · rw [separates.resolve_right capital.2, separatesToo.resolve_right capitalToo.2]

/-- A key is spelled in capitals in one way. -/
theorem eq_of_names_alike {first second : String} (capitals : UpperCaseName first)
    (capitalsToo : UpperCaseName second) (alike : NamesAlike first second) : first = second := by
  obtain ⟨rest, other, -, under, underToo, each⟩ := alike
  rw [UpperCaseName, under, List.forall_mem_append] at capitals
  rw [UpperCaseName, underToo, List.forall_mem_append] at capitalsToo
  have same : rest = other := by
    have inRest := capitals.2
    have inOther := capitalsToo.2
    clear under underToo capitals capitalsToo
    induction each with
    | nil => rfl
    | cons here _ induction =>
        rw [List.forall_mem_cons] at inRest inOther
        rw [eq_of_interchangeable inRest.1 inOther.1 here, induction inRest.2 inOther.2]
  rw [← String.toList_inj, under, underToo, same]

/-! ### The order of variables -/

theorem find_of_environment_iff {environment : List (String × String)} {key value : String} :
    (ofEnvironment environment).find? key = some value ↔
      LastSets VariableSets environment key value := by
  rw [of_environment_eq]
  exact find_of_list_iff environment_pair_iff

/-- A variable that is moved to the end sets its key. -/
theorem exists_perm_last_sets {environment : List (String × String)} {entry : String × String}
    {key value : String} (listed : entry ∈ environment) (sets : VariableSets entry key value) :
    ∃ other, other.Perm environment ∧ LastSets VariableSets other key value := by
  obtain ⟨front, back, rfl⟩ := List.mem_iff_append.mp listed
  refine ⟨(front ++ back) ++ [entry], ?_, front ++ back, entry, [], rfl, sets, by simp⟩
  exact (List.perm_append_singleton entry (front ++ back)).trans List.perm_middle.symm

/-- Where variables agree, any that sets a key decides it, in any order. -/
theorem find_of_environment_of_agree {environment ordered : List (String × String)}
    {key value : String} (agree : VariablesAgree environment) (perm : ordered.Perm environment) :
    (ofEnvironment ordered).find? key = some value ↔
      ∃ entry ∈ environment, VariableSets entry key value := by
  rw [find_of_environment_iff, last_sets_iff_of_agree]
  · simp only [perm.mem_iff]
  · intro first listed second listedToo text content sets setsToo
    rw [← sets.2, ← setsToo.2]
    apply agree first (perm.mem_iff.mp listed) second (perm.mem_iff.mp listedToo)
    exact variables_set_one_key_iff.mp ⟨key, ⟨sets.1, rfl⟩, setsToo.1, rfl⟩

theorem of_environment_perm_iff (environment : List (String × String)) :
    (∀ other, other.Perm environment → ofEnvironment other = ofEnvironment environment) ↔
      VariablesAgree environment := by
  constructor
  · intro same first listed second listedToo alike
    obtain ⟨key, sets, setsToo⟩ := variables_set_one_key_iff.mpr alike
    have decides : ∀ {entry : String × String}, entry ∈ environment →
        VariableSets entry key entry.2 →
        (ofEnvironment environment).find? key = some entry.2 := by
      intro entry listed sets
      obtain ⟨other, perm, last⟩ := exists_perm_last_sets listed sets
      rw [← same other perm]
      exact find_of_environment_iff.mpr last
    exact Option.some.inj ((decides listed sets).symm.trans (decides listedToo setsToo))
  · intro agree other perm
    apply ext_find
    intro key
    apply Option.ext
    intro value
    rw [find_of_environment_of_agree agree perm,
      find_of_environment_of_agree agree (List.Perm.refl _)]

theorem variables_agree_of_upper_case {environment : List (String × String)}
    (distinct : (environment.map Prod.fst).Nodup)
    (capitals : ∀ entry ∈ environment, environmentStem <+: entry.1.toList →
      UpperCaseName entry.1) : VariablesAgree environment := by
  intro first listed second listedToo alike
  obtain ⟨rest, other, -, under, underToo, -⟩ := id alike
  have same : first.1 = second.1 := by
    apply eq_of_names_alike _ _ alike
    · exact capitals first listed ⟨rest, under.symm⟩
    · exact capitals second listedToo ⟨other, underToo.symm⟩
  exact congrArg Prod.snd (List.inj_on_of_nodup_map distinct listed listedToo same)

end Properties

end AccessWeave
