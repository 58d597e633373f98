import ClientScribe.Api.Reference
import ClientScribe.Identifier.Basic
import ClientScribe.Notice

/-!
# Operations

A description lists its operations by path and method. An operation takes over the parameters of its
path and, unless it has requirements of its own, the security requirements of the description.

Main definitions:

* `Operation` — what the client needs to know of an operation;
* `operations` — the operations of a description, path by path in order and within a path in the
  order of `methods`;
* `grouped` — operations by group, in the order in which the groups appear.
-/

namespace ClientScribe.Api

open Document (Value Entries lookup put record misfit)

/-- A security requirement of an operation: a scheme, and the scopes if there are any. -/
structure Requirement where
  scheme : Value
  scopes : Option (List Value)

/-- An operation of a description. -/
structure Operation where
  id : Value
  method : Text
  path : Value
  group : Text
  summary : Value
  description : Value
  parameters : List Value
  requestBody : Value
  /-- The responses, each with its code among its fields. -/
  responses : List Value
  security : Option (List Requirement)
  tags : Value

/-- The methods of operations, in the order in which they are listed. -/
def methods : List Text := ["get", "put", "post", "delete", "options", "head", "patch"]

/-- What tells parameters apart: name and location; a reference has none. -/
def parameterKey (parameter : Value) : Result (Option (Value × Value)) := do
  if ← parameter.has "$ref" then return none
  else
    let name ← parameter.field "name"
    let location ← parameter.field "in"
    if name.isKey && location.isKey then return some (name, location) else misfit

/-- Whether two keys of parameters are the same. -/
def sameKey (a b : Value × Value) : Bool :=
  a.1.same b.1 && a.2.same b.2

/-- The parameters of a path that no parameter of the operation replaces, then the operation's. -/
def mergeParameters (ofPath ofOperation : Value) : Result (List Value) := do
  let own ← ofOperation.members
  let ownKeys := (← own.mapM parameterKey).filterMap id
  let kept ← (← ofPath.members).filterM fun parameter => do
    match ← parameterKey parameter with
    | none => return true
    | some key => return !ownKeys.any (sameKey key)
  return kept ++ own

/-- The requirements of one alternative. -/
def requirementsOf (alternative : Value) : Result (List Requirement) := do
  (← alternative.entries).mapM fun (scheme, scopes) => do
    if scopes.isTrue then return ⟨scheme, some (← scopes.members)⟩ else return ⟨scheme, none⟩

/-- The security requirements of an operation: its own if the field is there, else the
description's. -/
def security (document operation : Value) : Result (Option (List Requirement)) := do
  let requirements ← operation.fieldOr "security" (← document.field "security")
  if requirements.isNull then return none
  else return some (← (← requirements.members).mapM requirementsOf).flatten

/-- A response with its code among its fields. -/
def withCode (code response : Value) : Result Value := do
  let entries ← response.asEntries
  return .map (put (.str "code") (.str (← code.text)) entries)

/-- The operation of a path and a method. -/
def operation (document pathItem path : Value) (method : Text) : Result Operation := do
  let fields ← pathItem.demand method
  let responses ← ((← fields.field "responses").orElse (.map [])).entries
  let responses ← responses.mapM fun (code, response) => withCode code response
  let tags := (← fields.field "tags").orElse (.list [])
  let given ← fields.field "operationId"
  let id ← if given.isTrue then pure given
    else path.asText.map fun path => .str (Identifier.operationName method path)
  let group ← Identifier.groupName tags
  let summary ← fields.fieldOr "summary" (.str [])
  let description ← fields.fieldOr "description" (.str [])
  let ofPath ← pathItem.fieldOr "parameters" (.list [])
  let parameters ← mergeParameters ofPath (← fields.fieldOr "parameters" (.list []))
  let requestBody ← fields.field "requestBody"
  let security ← security document fields
  return {
    id, method, path, group, summary, description, parameters, requestBody, responses, security,
    tags }

/-- The operations of one path. -/
def operationsOfPath (document path pathItem : Value) : Result (List Operation) := do
  let _ ← pathItem.fieldOr "parameters" (.list [])
  let present ← methods.filterM pathItem.has
  present.mapM (operation document pathItem path)

/-- The operations of a description. -/
def findOperations (document : Value) : Result (List Operation) := do
  let found ← (← (← paths document).entries).mapM fun (path, pathItem) =>
    operationsOfPath document path pathItem
  return found.flatten

/-- The operations of a description, with a notice of their number. -/
def operations (document : Value) : Logged (List Operation) := do
  let found ← Logged.ofResult (findOperations document)
  Logged.note (.extracted found.length)
  return found

/-- The groups with an operation put at the end of its group. -/
def addToGroup (op : Operation) :
    List (Text × List Operation) → List (Text × List Operation)
  | [] => [(op.group, [op])]
  | (group, members) :: rest =>
    if group == op.group then (group, members ++ [op]) :: rest
    else (group, members) :: addToGroup op rest

/-- Operations by group. -/
def grouped (ops : List Operation) : List (Text × List Operation) :=
  ops.foldl (fun groups op => addToGroup op groups) []

/-- A security requirement as a value. -/
def Requirement.toValue (r : Requirement) : Value :=
  record [("id", r.scheme), ("scopes", match r.scopes with
    | some scopes => .list scopes
    | none => .null)]

end ClientScribe.Api
