import AccessWeave.Json.Record
import AccessWeave.Policy.Catalog

/-!
Policies described by JSON documents. A principal is described by its text, an operation by
its word. A policy lists the principals of every operation; a catalog lists only operations
that have an entry.
-/

namespace AccessWeave

open Json (Document)

namespace Operation

def describe (operation : Operation) : Document := Document.ofText operation.word

def ofDocument? (document : Document) : Option Operation :=
  document.word?.bind Operation.ofWord?

end Operation

namespace Principal

def describe (principal : Principal) : Document := Document.ofText principal.text

def ofDocument? (document : Document) : Option Principal := do
  let value ← document.text?
  match Principal.parse value with
  | .error _ => none
  | .ok principal => some principal

end Principal

def PrincipalSet.describe (principals : PrincipalSet) : Document :=
  Document.ofList Principal.describe principals.members

def Config.describe (config : Config) : Document :=
  Document.ofFields
    [("allow", Document.ofFields (config.allow.map fun (operation, principals) =>
      (operation.word, principals.describe))),
     ("bootstrap_artifact", Document.ofOption Document.ofText config.bootstrapArtifact)]

def Catalog.describe (catalog : Catalog) : Document :=
  Document.ofFields
    [("allow", Document.ofFields (Operation.all.filterMap fun operation =>
      (catalog.entryAt? operation).map fun principals =>
        (operation.word, principals.describe)))]

end AccessWeave
