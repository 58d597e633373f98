import ClientScribe.Client.DocComment
import ClientScribe.Client.ParameterGroup

/-!
# What is written of an operation

An operation is written as a function with a comment, the type of its optional parameters, and a
record of how to call it. `OperationView` holds the parts; `OperationsView` is all that goes into
the file of a group. Both become values for the template of the file.
-/

namespace ClientScribe.Client

open Api (Operation Requirement)
open Document (Value record)

/-- One optional parameter as a property. -/
structure OptionProperty where
  name : Text
  type : Value
  description : Text

/-- The type of an operation's optional parameters. -/
structure OptionsType where
  name : Text
  properties : List OptionProperty

/-- How an operation is called. -/
structure CallInfo where
  path : Value
  method : Text
  contentTypes : List Value
  security : List Requirement

/-- The parts of an operation that are written. -/
structure OperationView where
  id : Value
  docLines : List Text
  signature : Text
  returnSignature : Text
  hasOptionals : Bool
  hasParameters : Bool
  hasBody : Bool
  groups : List ParameterGroup
  optionsType : Option OptionsType
  info : CallInfo

/-- An optional parameter as a property. -/
def optionProperty (parameter : Value) : Result OptionProperty := do
  let name ← parameterName parameter
  let type ← Schema.typeText parameter true
  let description ← describe (← parameter.field "description") memberCommentLine
  return ⟨name, type, description⟩

/-- The type of an operation's optional parameters, if there are any. -/
def optionsType (op : Operation) (optional : List Value) : Result (Option OptionsType) := do
  if optional.isEmpty then return none
  else
    let name ← Identifier.optionsTypeName (← op.id.asText)
    return some ⟨name, ← optional.mapM optionProperty⟩

/-- The content types of a request body that is written out. -/
def contentTypes (body : Value) : Result (List Value) := do
  if !body.isTrue then return []
  else if ← body.has "$ref" then return []
  else
    let content ← ((← body.field "content").orElse (.map [])).entries
    return content.map (·.1)

/-- How an operation is called. -/
def callInfo (op : Operation) : Result CallInfo := do
  return ⟨op.path, op.method, ← contentTypes op.requestBody, op.security.getD []⟩

/-- What is written of an operation. -/
def operationView (document : Value) (op : Operation) (options : Options) :
    Result OperationView := do
  let parameters ← Api.partitioned document op.parameters
  let bodySchema ← Api.requestSchema document op.requestBody
  let groups ← parameterGroups document op.parameters
  let hasBody := op.requestBody.isTrue
  let returnSignature ←
    if options.typed then
      returnTypeOf op >>= fun type => do
        pure (": Promise<api.Response<" ++ (← type.text) ++ ">>")
    else pure []
  return {
    id := op.id
    docLines := ← docLines op parameters bodySchema
    signature := ← signature document op options []
    returnSignature
    hasOptionals := !parameters.optional.isEmpty
    hasParameters := !groups.isEmpty || hasBody
    hasBody
    groups
    optionsType := ← optionsType op parameters.optional
    info := ← callInfo op }

/-- All that goes into the file of a group. -/
structure OperationsView where
  group : Text
  typed : Bool
  hasTypes : Bool
  statementEnd : Text
  operations : List OperationView

/-- Whether a description keeps any schemas under a name. -/
def hasSchemas (document : Value) : Result Bool :=
  (Api.schemas document).map Value.isTrue

/-- What goes into the file of a group of operations. -/
def operationsView (document : Value) (group : Text) (ops : List Operation) (options : Options) :
    Result OperationsView := do
  let hasTypes ← hasSchemas document
  let operations ← ops.mapM fun op => operationView document op options
  return ⟨group, options.typed, hasTypes, options.statementEnd, operations⟩

/-- Texts as a list value. -/
def texts (items : List Text) : Value := .list (items.map .str)

/-- The group as a value. -/
def ParameterGroup.toValue (g : ParameterGroup) : Value :=
  record [("name", g.location), ("entries", texts g.entries)]

/-- The property as a value. -/
def OptionProperty.toValue (p : OptionProperty) : Value :=
  record [("name", .str p.name), ("type", p.type), ("description", .str p.description)]

/-- The type as a value. -/
def OptionsType.toValue (t : OptionsType) : Value :=
  record [("name", .str t.name), ("props", .list (t.properties.map OptionProperty.toValue))]

/-- The record of a call as a value. -/
def CallInfo.toValue (i : CallInfo) : Value :=
  record [("path", i.path), ("method", .str i.method), ("content_types", .list i.contentTypes),
    ("security", .list (i.security.map Requirement.toValue))]

/-- The parts of an operation as a value. -/
def OperationView.toValue (v : OperationView) : Value :=
  record [("id", v.id), ("doc_lines", texts v.docLines), ("signature", .str v.signature),
    ("return_signature", .str v.returnSignature), ("has_optionals", .bool v.hasOptionals),
    ("has_parameters", .bool v.hasParameters), ("has_body", .bool v.hasBody),
    ("param_groups", .list (v.groups.map ParameterGroup.toValue)),
    ("options_type", match v.optionsType with
      | some t => t.toValue
      | none => .null),
    ("info", v.info.toValue)]

/-- The contents of a group's file as a value. -/
def OperationsView.toValue (v : OperationsView) : Value :=
  record [("group", .str v.group), ("typed", .bool v.typed), ("has_types", .bool v.hasTypes),
    ("st", .str v.statementEnd), ("operations", .list (v.operations.map OperationView.toValue))]

end ClientScribe.Client
