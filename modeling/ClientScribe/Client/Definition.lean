import ClientScribe.Client.BodyType

/-!
# Definitions

The types that a client may declare: the schemas that the description keeps under a name, and the
bodies of operations that are objects with a structure of their own or arrays of such objects. An
array is declared by its elements, under the name of the elements.
-/

namespace ClientScribe.Client

open Api (Operation)
open Document (Value Entries put)
open Schema (isInlineObject nameOf)

/-- The elements of an inline array as a definition: an object with the description of the array, if
that has one. -/
def flattened (schema : Value) (items : Value) : Result Value := do
  let fields := put (.str "type") (.str "object") (← items.entries)
  let description ← schema.field "description"
  return .map (if description.isTrue then put (.str "description") description fields else fields)

/-- The definitions with that of the elements of an array added, if they need one and their name is
free; the name of the elements is the given one unless they have their own. -/
def addElements (definitions : Entries) (schema : Value) (name : Text) : Logged Entries := do
  let items := (← (schema.field "items" : Result Value)).orElse (.map [])
  if ← (items.has "$ref" : Result Bool) then
    Logged.note (.skippedReference (← (items.demand "$ref" : Result Value)))
    return definitions
  else if !isInlineObject items then return definitions
  else
    let name ← (nameOf schema name true : Result Text)
    if (Document.lookup name definitions).isSome then
      Logged.note (.nameTaken name)
      return definitions
    else return put (.str name) (← (flattened schema items : Result Value)) definitions

/-- The definitions with that of a body added, if it needs one under this name. -/
def addBody (definitions : Entries) (schema : Value) (name : Text) : Logged Entries := do
  if schema.isNull then return definitions
  else if ← (schema.has "$ref" : Result Bool) then
    Logged.note (.skippedReference (← (schema.demand "$ref" : Result Value)))
    return definitions
  else if (← (schema.field "type" : Result Value)).isText "array" then
    addElements definitions schema name
  else if isInlineObject schema then return put (.str name) schema definitions
  else return definitions

/-- The definitions with those of an operation's bodies added: that of the request, then that of the
best response. -/
def addBodies (document : Value) (definitions : Entries) (op : Operation) : Logged Entries := do
  let definitions ←
    if op.requestBody.isTrue then do
      let schema ← (Api.requestSchema document op.requestBody : Result Value)
      addBody definitions schema (← (requestTypeName op.id : Result Text))
    else pure definitions
  let best ← (Api.bestOf op.responses : Result (Option Value))
  let schema ← (schemaOf best : Result Value)
  addBody definitions schema (← (responseTypeName op.id : Result Text))

/-- The definitions of a description with the given operations. -/
def definitions (document : Value) (ops : List Operation) : Logged Entries := do
  let schemas ← (Api.schemas document : Result Value)
  let named ← (schemas.asEntries : Result Entries)
  ops.foldlM (addBodies document) named

end ClientScribe.Client
