import ClientScribe.Document.Access

/-!
# References to schemas

A description keeps its schemas under a name, and other places refer to them by a path. A schema
that is nothing but a reference leads on to another one; `resolve` follows such chains to their end
and refuses those that lead back to themselves.
-/

namespace ClientScribe.Api

open Document (Value Entries lookup misfit)

/-- The paths of a description. -/
def paths (document : Value) : Result Value := do
  return (← document.field "paths").orElse (.map [])

/-- The reusable parts of a description. -/
def components (document : Value) : Result Value := do
  return (← document.field "components").orElse (.map [])

/-- The schemas that a description keeps under a name. -/
def schemas (document : Value) : Result Value := do
  return (← (← components document).field "schemas").orElse (.map [])

/-- The text behind the last slash. -/
def lastSegment (s : Text) : Text :=
  (s.reverse.takeWhile (· != .char '/')).reverse

/-- The name that a reference ends with. -/
def referenceName (reference : Value) : Result Text := do
  return lastSegment (← reference.asText)

/-- The target of a schema that is nothing but a reference. -/
def onlyReference? (schema : Value) : Option Value :=
  match schema.view with
  | .map [(key, target)] => if key.isText "$ref" then some target else none
  | _ => none

/-- The schema of a name. -/
def schemaNamed (schemas : Value) (reference name : Text) : Result Value := do
  if ← schemas.has name then schemas.demand name
  else .error (.danglingReference reference)

/-- The name that a reference to a schema leads to. -/
def schemaName (reference : Text) : Result Text :=
  if schemaReferenceStart.isPrefixOf reference then
    .ok (reference.drop schemaReferenceStart.length)
  else .error (.unsupportedReference reference)

/-- Follows a reference behind others that have been followed already. A chain visits every schema
at most once, so the number of schemas bounds its length. -/
def follow (schemas : Value) : Nat → List Text → Value → Result Value
  | 0, _, _ => misfit
  | fuel + 1, seen, reference => do
    let reference ← reference.asText
    let name ← schemaName reference
    if seen.contains reference then .error (.circularReference reference)
    else
      let target ← schemaNamed schemas reference name
      match onlyReference? target with
      | some next => follow schemas fuel (reference :: seen) next
      | none => return target

/-- The number of schemas. -/
def schemaCount (schemas : Value) : Nat :=
  match schemas.view with
  | .map entries => entries.length
  | _ => 0

/-- The schema that a reference leads to. -/
def resolve (document reference : Value) : Result Value := do
  let start ← reference.asText
  let _ ← schemaName start
  let schemas ← schemas document
  follow schemas (schemaCount schemas + 2) [] reference

end ClientScribe.Api
