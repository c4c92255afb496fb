import AccessWeave.Policy.Config

/-!
The catalog of grants: for some operations the principals that may perform them. An
operation without an entry is denied to everyone, like one with an empty entry.
-/

namespace AccessWeave

structure Catalog where
  entryAt? : Operation → Option PrincipalSet

namespace Catalog

def denyAll : Catalog := ⟨fun _ => none⟩

def ofConfig (config : Config) : Catalog := ⟨fun operation => config.allow.lookup operation⟩

def grant (catalog : Catalog) (operation : Operation) (principal : Principal) : Catalog :=
  ⟨fun other =>
    if other = operation then some (((catalog.entryAt? other).getD .empty).insert principal)
    else catalog.entryAt? other⟩

def allows (catalog : Catalog) (operation : Operation) (principal : Principal) : Bool :=
  match catalog.entryAt? operation with
  | none => false
  | some principals => principals.contains principal

def allowed (catalog : Catalog) (operation : Operation) : List Principal :=
  ((catalog.entryAt? operation).map PrincipalSet.members).getD []

def grantCount (catalog : Catalog) : Nat :=
  (Operation.all.flatMap catalog.allowed).length

end Catalog

end AccessWeave
