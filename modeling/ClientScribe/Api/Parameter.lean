import ClientScribe.Api.Reference

/-!
# Parameters

A parameter is written where it is used or referred to as a schema. One that is referred to is
required unless its schema may be null; one that is written out is required if it says so.
-/

namespace ClientScribe.Api

open Document (Value)

/-- The parameter itself, or what it refers to. -/
def resolved (document parameter : Value) : Result Value := do
  if ← parameter.has "$ref" then resolve document (← parameter.demand "$ref")
  else return parameter

/-- Whether a call must give the parameter. -/
def isRequired (document parameter : Value) : Result Bool := do
  if ← parameter.has "$ref" then
    let target ← resolve document (← parameter.demand "$ref")
    return !(← target.fieldOr "nullable" (.bool false)).isTrue
  else return (← parameter.fieldOr "required" (.bool false)).isTrue

/-- Parameters by whether a call must give them, resolved. -/
structure Parameters where
  required : List Value
  optional : List Value

/-- A parameter, resolved, and whether a call must give it. It must have a name. -/
def classified (document parameter : Value) : Result (Value × Bool) := do
  let target ← resolved document parameter
  if ← target.has "name" then return (target, ← isRequired document parameter)
  else
    let given ← parameter.fieldOr "$ref" parameter
    .error (.parameterWithoutName (← given.quoted))

/-- Parameters, resolved and split by whether a call must give them, each part in order. -/
def partitioned (document : Value) (parameters : List Value) : Result Parameters := do
  let all ← parameters.mapM (classified document)
  return ⟨(all.filter (·.2)).map (·.1), (all.filter (!·.2)).map (·.1)⟩

end ClientScribe.Api
