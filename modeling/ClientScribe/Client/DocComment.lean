import ClientScribe.Client.Description
import ClientScribe.Client.Signature

/-!
# Comments of functions

The comment in front of a function says what its operation does, one line for every argument, and
what it returns. The fields of the optional parameters are listed behind their object, with their
default values.
-/

namespace ClientScribe.Client

open Api (Operation)
open Document (Value misfit)

/-- A field of a parameter's schema, if the parameter has one. -/
def schemaField (parameter : Value) (k : Text) : Result Value := do
  ((← parameter.field "schema").orElse (.map [])).field k

/-- An optional parameter in a comment, with its default value if it has one. -/
def optionalName (parameter : Value) (name : Text) : Result Text := do
  let default ← parameter.fieldOr "default" (← schemaField parameter "default")
  let value : Text ← if default.isNull then pure [] else do pure ("=" ++ (← default.text))
  return "[options." ++ name ++ value ++ "]"

/-- The listed values of a parameter, if there are any. -/
def listedValues (parameter : Value) : Result Value := do
  let own ← parameter.field "enum"
  if own.isTrue then return own else schemaField parameter "enum"

/-- The line of a parameter. -/
def parameterLine (parameter : Value) (required : Bool) : Result Text := do
  let argument ← parameterName parameter
  let name ← if required then pure argument else optionalName parameter argument
  let description ← describe (← parameter.field "description") commentLine
  let listed ← listedValues parameter
  let description ←
    if listed.isTrue then do
      let texts ← (← listed.members).mapM Value.text
      pure ("Enum: " ++ Text.intercalate ", " texts ++ ". " ++ description)
    else pure description
  let type ← (← Schema.docTypeText parameter).text
  return Text.stripEnd
    (commentLine ++ "@param \x7b" ++ type ++ "\x7d " ++ name ++ " " ++ description)

/-- A description without the blanks at its ends. Bytes have blanks to cut off as well, and are a
misfit only if something is left that a line would have to show. -/
def stripped : Value → Result Text
  | .bytes content => if content.all Text.isBlankByte then .ok [] else misfit
  | v => do return Text.strip (← v.asText)

/-- The lines that say what an operation does; an empty comment line closes them. -/
def summaryLines (op : Operation) : Result (List Text) := do
  let text ← stripped ((op.description.orElse op.summary).orElse (.str []))
  if text.isEmpty then return []
  else return [commentLine ++ continueLines commentLine text, Text.stripEnd commentLine]

/-- The line of the request body. -/
def bodyLine (op : Operation) (schema : Value) : Result Text := do
  let type ← (← bodyDocType schema (← requestTypeName op.id)).text
  return commentLine ++ "@param \x7b" ++ type ++ "\x7d body"

/-- The line that says what a function returns. -/
def returnLine (op : Operation) : Result Text := do
  let response ← Api.bestOf op.responses
  let type ← (← bodyDocType (← schemaOf response) (← responseTypeName op.id)).text
  let description ←
    match response.filter Value.isTrue with
    | some response => response.field "description"
    | none => pure .null
  let description ← describe description commentLine
  return Text.stripEnd
    (commentLine ++ "@return \x7bPromise<$tipi$ApiResponse<" ++ type ++ ">>\x7d " ++ description)

/-- The lines of the comment in front of an operation's function. -/
def docLines (op : Operation) (parameters : Api.Parameters) (bodySchema : Value) :
    Result (List Text) := do
  let summary ← summaryLines op
  let required ← parameters.required.mapM (parameterLine · true)
  let optional ← parameters.optional.mapM (parameterLine · false)
  let object :=
    if parameters.optional.isEmpty then []
    else [commentLine ++ "@param \x7bobject\x7d options Optional options"]
  let body ← if op.requestBody.isTrue then pure [← bodyLine op bodySchema] else pure []
  return summary ++ required ++ object ++ optional ++ body ++ [← returnLine op]

end ClientScribe.Client
