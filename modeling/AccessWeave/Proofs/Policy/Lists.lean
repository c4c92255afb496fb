import AccessWeave.Proofs.Policy.Lookup
import AccessWeave.Proofs.Policy.Names

/-!
# Reading an allow-list

An allow-list is read when it is blank or when all of its entries name principals, and its members
are then those who are named. Otherwise the first entry that names nobody is reported, without the
blanks around it.
-/

namespace AccessWeave

/-- A text of blanks alone. -/
def IsBlankText (value : String) : Prop := ∀ character ∈ value.toList, Text.isBlank character = true

def trimmedText (entry : List Char) : String := String.ofList (Text.trim entry)

theorem listed_entries_eq (value : String) :
    listedEntries value = (Text.pieces ',' value.toList).map trimmedText :=
  rfl

theorem parse_entries_cons (entry : List Char) (entries : List (List Char)) :
    parseEntries (entry :: entries) =
      match Principal.parse (trimmedText entry) with
      | .error error => .error (.malformedPrincipal error.value)
      | .ok principal =>
          match parseEntries entries with
          | .error error => .error error
          | .ok principals => .ok (principal :: principals) :=
  rfl

theorem parse_entries_error {entries : List (List Char)} {before after : List String}
    {entry : String} (split : entries.map trimmedText = before ++ entry :: after)
    (named : ∀ other ∈ before, NamesPrincipal other) (nobody : ¬NamesPrincipal entry) :
    parseEntries entries = .error (.malformedPrincipal entry) := by
  induction before generalizing entries with
  | nil =>
      obtain ⟨first, rest, rfl, rfl, -⟩ := List.map_eq_cons_iff.mp split
      rw [parse_entries_cons, parse_error_iff.mpr ⟨nobody, rfl⟩]
  | cons other before induction =>
      obtain ⟨first, rest, rfl, rfl, later⟩ := List.map_eq_cons_iff.mp split
      rw [List.forall_mem_cons] at named
      obtain ⟨principal, parsed⟩ := names_principal_iff.mp named.1
      rw [parse_entries_cons, parsed, induction later named.2]

/-- Either all entries name principals, and these are the ones that are read, or there is a first
entry that does not. -/
theorem parse_entries_cases (entries : List (List Char)) :
    (∃ principals, parseEntries entries = .ok principals ∧
      entries.map trimmedText = principals.map Principal.text ∧
      ∀ principal ∈ principals, DottedName principal.name) ∨
    ∃ before entry after, entries.map trimmedText = before ++ entry :: after ∧
      (∀ other ∈ before, NamesPrincipal other) ∧ ¬NamesPrincipal entry := by
  induction entries with
  | nil => exact .inl ⟨[], rfl, rfl, by simp⟩
  | cons first entries induction =>
      cases parsed : Principal.parse (trimmedText first) with
      | error fault =>
          exact .inr ⟨[], _, _, rfl, by simp, (parse_error_iff.mp parsed).1⟩
      | ok principal =>
          obtain ⟨text, name⟩ := parse_ok_iff.mp parsed
          rcases induction with
            ⟨principals, read, texts, named⟩ | ⟨before, entry, after, split, named, nobody⟩
          · refine .inl ⟨principal :: principals, ?_, ?_, ?_⟩
            · rw [parse_entries_cons, parsed, read]
            · rw [List.map_cons, List.map_cons, text, texts]
            · rw [List.forall_mem_cons]
              exact ⟨name, named⟩
          · refine .inr ⟨trimmedText first :: before, entry, after, ?_, ?_, nobody⟩
            · rw [List.map_cons, split, List.cons_append]
            · rw [List.forall_mem_cons]
              exact ⟨names_principal_iff.mpr ⟨principal, parsed⟩, named⟩

theorem is_blank_text_iff {value : String} :
    IsBlankText value ↔ (Text.trim value.toList).isEmpty = true := by
  rw [List.isEmpty_iff, Text.trim_eq_nil_iff, IsBlankText]

theorem listed_entries_of_blank {value : String} (blank : IsBlankText value) :
    listedEntries value = [""] := by
  have whole : ',' ∉ value.toList := by
    intro member
    exact absurd (blank ',' member) (by decide)
  have empty : Text.trim value.toList = [] :=
    List.isEmpty_iff.mp (is_blank_text_iff.mp blank)
  rw [listed_entries_eq, Text.pieces_whole whole, List.map_singleton, trimmedText, empty]

theorem parse_allow_list_error_iff {value : String} {error : ConfigError} :
    parseAllowList value = .error error ↔ ¬IsBlankText value ∧
      ∃ before entry after, listedEntries value = before ++ entry :: after ∧
        (∀ other ∈ before, NamesPrincipal other) ∧ ¬NamesPrincipal entry ∧
        error = .malformedPrincipal entry := by
  rw [is_blank_text_iff, parseAllowList]
  split
  · next blank => simp [blank]
  · next filled =>
      rw [and_iff_right filled, listed_entries_eq]
      constructor
      · intro failed
        rcases parse_entries_cases (Text.pieces ',' value.toList) with
          ⟨principals, read, -, -⟩ | ⟨before, entry, after, split, named, nobody⟩
        · simp [read] at failed
        · rw [parse_entries_error split named nobody] at failed
          exact ⟨before, entry, after, split, named, nobody, (Except.error.inj failed).symm⟩
      · rintro ⟨before, entry, after, split, named, nobody, rfl⟩
        rw [parse_entries_error split named nobody]

/-- Of a list that is read, those are members who are named. -/
theorem parse_allow_list_cases (value : String) :
    (∃ principals, parseAllowList value = .ok principals ∧
      (IsBlankText value ∨ ∀ entry ∈ listedEntries value, NamesPrincipal entry) ∧
      ∀ principal, principal ∈ principals.members ↔ principal.text ∈ listedEntries value) ∨
    ¬IsBlankText value ∧ ∃ before entry after, listedEntries value = before ++ entry :: after ∧
      (∀ other ∈ before, NamesPrincipal other) ∧ ¬NamesPrincipal entry := by
  by_cases blank : IsBlankText value
  · refine .inl ⟨.empty, if_pos (is_blank_text_iff.mp blank), .inl blank, ?_⟩
    intro principal
    refine iff_of_false List.not_mem_nil ?_
    rw [listed_entries_of_blank blank, List.mem_singleton]
    exact principal.text_ne_empty
  · rw [listed_entries_eq, parseAllowList, if_neg (mt is_blank_text_iff.mpr blank)]
    rcases parse_entries_cases (Text.pieces ',' value.toList) with
      ⟨principals, read, texts, named⟩ | unnamed
    · refine .inl ⟨.ofList principals, by rw [read], .inr ?_, ?_⟩
      · intro entry member
        rw [texts] at member
        obtain ⟨principal, listed, rfl⟩ := List.mem_map.mp member
        exact names_principal_iff.mpr ⟨principal, parse_ok_iff.mpr ⟨rfl, named principal listed⟩⟩
      · intro principal
        rw [PrincipalSet.mem_of_list_iff, texts, List.mem_map]
        constructor
        · exact fun member => ⟨principal, member, rfl⟩
        · rintro ⟨other, member, same⟩
          rwa [Principal.text_injective same] at member
    · exact .inr ⟨blank, unnamed⟩

theorem parse_allow_list_ok {value : String} {principals : PrincipalSet}
    (read : parseAllowList value = .ok principals) :
    (IsBlankText value ∨ ∀ entry ∈ listedEntries value, NamesPrincipal entry) ∧
      ∀ principal, principal ∈ principals.members ↔ principal.text ∈ listedEntries value := by
  rcases parse_allow_list_cases value with
    ⟨found, same, accepted⟩ | ⟨blank, before, entry, after, split, named, nobody⟩
  · rw [same, Except.ok.injEq] at read
    rwa [read] at accepted
  · rw [parse_allow_list_error_iff.mpr ⟨blank, before, entry, after, split, named, nobody, rfl⟩]
      at read
    cases read

end AccessWeave
