import ClientScribe.Api.Reference
import ClientScribe.Json.Printer
import ClientScribe.Options

/-!
# The service descriptor

The client carries a descriptor of its service: what the description says about host, schemes, base
path, content types and security schemes. It is written as one literal whose texts stand in single
quotes.
-/

namespace ClientScribe.Client

open Document (Value record)

/-- The literal of a value with single quotes in place of the double ones. -/
def singleQuoted (literal : Text) : Text :=
  literal.map fun c => if c == .char '"' then .char '\'' else c

/-- The descriptor of a description: the fields that are not null. -/
def descriptor (document : Value) : Result Value := do
  let host ← document.field "host"
  let schemes ← document.field "schemes"
  let basePath ← document.field "basePath"
  let contentTypes ← document.field "contentTypes"
  let accepts ← document.field "accepts"
  let securitySchemes ← (← Api.components document).field "securitySchemes"
  return record (([("host", host), ("schemes", schemes), ("basePath", basePath),
    ("contentTypes", contentTypes), ("accepts", accepts),
    ("securitySchemes", securitySchemes)] : List (Text × Value)).filter (!·.2.isNull))

/-- All that goes into the file of the descriptor. -/
structure DescriptorView where
  typed : Bool
  statementEnd : Text
  view : Text

/-- What goes into the file of the descriptor. -/
def descriptorView (document : Value) (options : Options) : Result DescriptorView := do
  let literal ← Json.print 0 (← descriptor document)
  return ⟨options.typed, options.statementEnd, singleQuoted literal⟩

/-- The contents of the file of the descriptor as a value. -/
def DescriptorView.toValue (v : DescriptorView) : Value :=
  record [("typed", .bool v.typed), ("st", .str v.statementEnd), ("view", .str v.view)]

end ClientScribe.Client
