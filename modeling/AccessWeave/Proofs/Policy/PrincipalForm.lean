import AccessWeave.Policy.Description
import AccessWeave.Proofs.Json.Meaning
import AccessWeave.Proofs.Policy.Names

/-!
# Principals and their form

The form of a principal is what configuration and documents hold of it. It is read exactly when the
name is dotted, and it is then the form of one principal alone. A principal with any other name can
be made and written, but not read back.
-/

namespace AccessWeave

namespace Principal

variable {principal other : Principal} {value : String}

theorem parse_text_iff :
    parse principal.text = .ok other ↔ DottedName principal.name ∧ other = principal := by
  rw [parse_ok_iff]
  constructor
  · rintro ⟨same, dotted⟩
    obtain rfl := text_injective same
    exact ⟨dotted, rfl⟩
  · rintro ⟨dotted, rfl⟩
    exact ⟨rfl, dotted⟩

/-- Those that have been read are those with a dotted name. -/
theorem exists_parse_iff :
    (∃ value, parse value = .ok principal) ↔ DottedName principal.name := by
  constructor
  · rintro ⟨value, parsed⟩
    exact (parse_ok_iff.mp parsed).2
  · exact fun dotted => ⟨principal.text, parse_ok_iff.mpr ⟨rfl, dotted⟩⟩

/-- A document is read as a principal when it is a text that is. -/
theorem of_document_iff {document : Json.Document} :
    ofDocument? document = some principal ↔
      ∃ value, document.text? = some value ∧ parse value = .ok principal := by
  unfold ofDocument?
  cases document.text? with
  | none => simp
  | some value => cases parsed : parse value <;> simp [parsed]

theorem of_written_iff :
    (Json.read (Json.write principal.describe)).bind ofDocument? = some other ↔
      (∃ value, parse value = .ok principal) ∧ other = principal := by
  rw [describe, Json.read_write (Json.Document.of_text_spelled principal.text), Option.bind_some,
    of_document_iff, Json.Document.text_of_text, exists_parse_iff]
  simp only [Option.some.injEq, exists_eq_left', parse_text_iff]

/-- A text is read exactly when it is the word module, one space and a dotted name, and it is then
the form of the principal and of no other one. Otherwise it is given back with the error. A
principal is read back from its form, and from a document, exactly when its name is dotted. -/
theorem form_is_read_exactly (value : String) :
    ((∃ principal, parse value = .ok principal) ↔ NamesPrincipal value) ∧
    (∀ principal, parse value = .ok principal →
      principal.text = value ∧ ∀ other, parse other = .ok principal → other = value) ∧
    (∀ error, parse value = .error error ↔ ¬NamesPrincipal value ∧ error = ⟨value⟩) ∧
    (∀ name principal, parse (Principal.mk name).text = .ok principal ↔
      DottedName name ∧ principal = ⟨name⟩) ∧
    (∀ document principal, ofDocument? document = some principal ↔
      ∃ text, document.text? = some text ∧ parse text = .ok principal) ∧
    ∀ principal other, (Json.read (Json.write principal.describe)).bind ofDocument? = some other ↔
      (∃ text, parse text = .ok principal) ∧ other = principal := by
  refine ⟨names_principal_iff.symm, ?_, fun error => parse_error_iff,
    fun name principal => parse_text_iff, fun document principal => of_document_iff,
    fun principal other => of_written_iff⟩
  intro principal parsed
  have text := (parse_ok_iff.mp parsed).1
  exact ⟨text.symm, fun other parsedToo => (parse_ok_iff.mp parsedToo).1.trans text.symm⟩

example :
    ["module", "module ", "module  a", "Module a", "module .a", "module a.", "module a..b",
      "module 1a", "module a-b", "module a\tb", " module a", "module a "].map
        (fun value => (parse value).toOption) = List.replicate 12 none ∧
      parse "module _.$é.x²" = .ok ⟨"_.$é.x²"⟩ := by
  decide +kernel

end Principal

end AccessWeave
