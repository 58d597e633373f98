import ClientScribe.Api.Parameter
import ClientScribe.Client.BodyType
import ClientScribe.Options

/-!
# Signatures

A function takes the required parameters of its operation in order, then the body of the request if
there is one, then one object with the optional parameters if there are any. In the language without
types the signature is the row of their names.
-/

namespace ClientScribe.Client

open Api (Operation Parameters)
open Document (Value)
open Identifier (argumentName)

/-- An argument of a function. -/
structure Argument where
  name : Text
  /-- Whether a call may leave it out. -/
  optional : Bool
  /-- The text of its type, in the language with types. -/
  type : Option Text

/-- An argument in a signature. -/
def Argument.text (a : Argument) : Text :=
  match a.type with
  | some type => a.name ++ (if a.optional then "?: " else ": ") ++ type
  | none => a.name

/-- The argument of a parameter's name. -/
def parameterName (parameter : Value) : Result Text := do
  argumentName (← (← parameter.demand "name").asText)

/-- The argument of a required parameter. -/
def requiredArgument (typed : Bool) (parameter : Value) : Result Argument := do
  let name ← parameterName parameter
  if typed then return ⟨name, false, some (← (← Schema.typeText parameter true).text)⟩
  else return ⟨name, false, none⟩

/-- The argument of an operation's request body. -/
def bodyArgument (document : Value) (op : Operation) (typed : Bool) : Result Argument := do
  if typed then
    let schema ← Api.requestSchema document op.requestBody
    let type ← bodyType schema (← requestTypeName op.id)
    return ⟨"body", false, some (← type.text)⟩
  else return ⟨"body", false, none⟩

/-- The argument of an operation's optional parameters, with the start of the name of its type. -/
def optionsArgument (op : Operation) (typed : Bool) (package : Text) : Result Argument := do
  if typed then
    let name ← Identifier.optionsTypeName (← op.id.asText)
    return ⟨"options", true, some (package ++ name)⟩
  else return ⟨"options", true, none⟩

/-- The arguments of an operation's function. -/
def arguments (document : Value) (op : Operation) (typed : Bool) (package : Text) :
    Result (List Argument) := do
  let parameters ← Api.partitioned document op.parameters
  let required ← parameters.required.mapM (requiredArgument typed)
  let body ← if op.requestBody.isTrue then pure [← bodyArgument document op typed] else pure []
  let options ←
    if parameters.optional.isEmpty then pure [] else pure [← optionsArgument op typed package]
  return required ++ body ++ options

/-- The signature of an operation's function. -/
def signature (document : Value) (op : Operation) (options : Options) (package : Text) :
    Result Text := do
  return Text.intercalate ", " ((← arguments document op options.typed package).map Argument.text)

/-- The arguments that a call of an operation's function passes on. -/
def callArguments (document : Value) (op : Operation) : Result (List Text) := do
  let parameters ← Api.partitioned document op.parameters
  let required ← parameters.required.mapM parameterName
  let body : List Text := if op.requestBody.isTrue then ["body"] else []
  let options : List Text := if parameters.optional.isEmpty then [] else ["options"]
  return required ++ body ++ options

end ClientScribe.Client
