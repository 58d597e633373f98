import ClientScribe.Api.Reference

/-!
# Bodies of requests and responses

The schema of a body is that of its JSON content. A request without JSON content is read by the
first content it lists; a response is not, and neither is one for all other codes.
-/

namespace ClientScribe.Api

open Document (Value)

/-- The content type that bodies are read from. -/
def jsonContent : Text := "application/json"

/-- The schema of a request's body; a body that is a reference is its own schema, and what it refers
to has to be there. -/
def requestSchema (document body : Value) : Result Value := do
  if !body.isTrue then return .null
  else if ← body.has "$ref" then
    let _ ← resolve document (← body.demand "$ref")
    return body
  else
    let content := (← body.field "content").orElse (.map [])
    let json ← content.field jsonContent
    let media ←
      if json.isNull then
        content.entries.map fun entries => (entries.head?.map (·.2)).getD .null
      else pure json
    if media.isTrue then media.field "schema" else return .null

/-- The schema of a response's body. -/
def responseSchema (response : Value) : Result Value := do
  if !response.isTrue then return .null
  else if (← response.field "code").isText "default" then return .null
  else
    let media ← ((← response.field "content").orElse (.map [])).field jsonContent
    if media.isMap then media.field "schema" else return .null

end ClientScribe.Api
