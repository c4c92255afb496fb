import AccessWeave.Policy.Description
import AccessWeave.Weave.Transformer

/-!
Rules and reports described by JSON documents. A rule that says nothing about its calls means
the calls that perform its operation, and one that says nothing about the place means the
place before the call.
-/

namespace AccessWeave

open Json (Document)

namespace Placement

def describe (placement : Placement) : Document := Document.ofText placement.word

def ofDocument? (document : Document) : Option Placement :=
  document.word?.bind Placement.ofWord?

end Placement

def Rule.ofDocument? (document : Document) : Option Rule := do
  match ← document.fields? ["operation", "placement", "signature"] with
  | [operation, placement, signature] => do
      let operation ← Document.required? Operation.ofDocument? operation
      let placement ← Document.absentOr? Placement.ofDocument? placement
      let signature ← Document.absentOr? Signature.ofDocument? signature
      some
        { operation
          signature := signature.getD operation.signature
          placement := placement.getD .beforeCall }
  | _ => none

def GuardedSite.describe (site : GuardedSite) : Document :=
  Document.ofFields
    [("method", Document.ofText site.method), ("operation", site.operation.describe)]

def Report.describe (report : Report) : Document :=
  Document.ofFields
    [("class", Document.ofText report.className),
     ("guarded", Document.ofList GuardedSite.describe report.guarded)]

end AccessWeave
