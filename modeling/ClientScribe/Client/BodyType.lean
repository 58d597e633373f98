import ClientScribe.Api.Body
import ClientScribe.Api.Operation
import ClientScribe.Api.Response
import ClientScribe.Schema.DeclaredName

/-!
# Types of bodies

The body of a request or of a response has the type of its schema, except that an object with a
structure of its own is named after its operation: a type under that name is declared for it. The
same goes for the elements of an array of such objects.
-/

namespace ClientScribe.Client

open Api (Operation)
open Document (Value)
open Schema (isInlineArray isInlineObject nameOf qualifiedName)

/-- The name of the type that is declared for the request of an operation. -/
def requestTypeName (id : Value) : Result Text := do
  return (← id.text) ++ "_request"

/-- The name of the type that is declared for the response of an operation. -/
def responseTypeName (id : Value) : Result Text := do
  return (← id.text) ++ "_response"

/-- The type of a body in the client's language. -/
def bodyType (schema : Value) (declared : Text) : Result Value := do
  if schema.isNull then return .str "any"
  else if isInlineObject schema then return .str (qualifiedName declared true)
  else if ← isInlineArray schema then
    return .str (qualifiedName (← nameOf schema declared true) true ++ "[]")
  else Schema.typeText schema true

/-- The type of a body in the documentation. -/
def bodyDocType (schema : Value) (declared : Text) : Result Value := do
  if schema.isNull then return .str "object"
  else if isInlineObject schema then return .str declared
  else if ← isInlineArray schema then return .str (← nameOf schema declared false)
  else Schema.docTypeText schema

/-- The schema of a response that there may be. -/
def schemaOf (response : Option Value) : Result Value :=
  Api.responseSchema (response.getD .null)

/-- The type of the data that the best one of an operation's responses carries. -/
def returnType (id : Value) (best : Option Value) : Result Value := do
  bodyType (← schemaOf best) (← responseTypeName id)

/-- The type of the data that an operation returns. -/
def returnTypeOf (op : Operation) : Result Value := do
  returnType op.id (← Api.bestOf op.responses)

end ClientScribe.Client
