import ClientScribe.Client.Signature

/-!
# Groups of parameters

A request carries its parameters by location. Every parameter becomes an entry of an object literal
under its own name: the value of its argument, or of the field of the optional parameters, formatted
if it is an array or a date.
-/

namespace ClientScribe.Client

open Document (Value misfit)
open Identifier (propertyKey)

/-- The parameters of one location, as entries of an object literal. -/
structure ParameterGroup where
  location : Value
  entries : List Text

/-- The entry of a parameter. -/
def parameterEntry (parameter : Value) (required : Bool) : Result Text := do
  let wireName ← (← parameter.demand "name").asText
  let name ← Identifier.argumentName wireName
  let key := propertyKey wireName
  let value := if required then name else "options." ++ name
  if (← parameter.field "type").isText "array" then
    let format ← parameter.field "collectionFormat"
    if format.isTrue then
      return key ++ ": gateway.formatArrayParam(" ++ value ++ ", '" ++ (← format.text) ++ "', '" ++
        wireName ++ "')"
    else .error (.arrayParameterWithoutFormat wireName)
  else
    let format ← parameter.field "format"
    if Schema.isDateFormat format then
      return key ++ ": gateway.formatDate(" ++ value ++ ", '" ++ (← format.text) ++ "')"
    else if required && wireName == name && name == key then return key
    else return key ++ ": " ++ value

/-- The groups with an entry put at the end of the group of its location. -/
def addEntry (location : Value) (entry : Text) : List ParameterGroup → List ParameterGroup
  | [] => [⟨location, [entry]⟩]
  | group :: rest =>
    if group.location.same location then ⟨group.location, group.entries ++ [entry]⟩ :: rest
    else group :: addEntry location entry rest

/-- The entry of a parameter and its location. -/
def located (document parameter : Value) : Result (Value × Text) := do
  let target ← Api.resolved document parameter
  let entry ← parameterEntry target (← Api.isRequired document parameter)
  let location ← target.fieldOr "in" (.str "query")
  if location.isKey then return (location, entry) else misfit

/-- The groups of parameters, in the order in which the locations appear. -/
def parameterGroups (document : Value) (parameters : List Value) :
    Result (List ParameterGroup) := do
  let all ← parameters.mapM (located document)
  return all.foldl (fun groups e => addEntry e.1 e.2 groups) []

end ClientScribe.Client
