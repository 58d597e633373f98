import ClientScribe.Document.Access

/-!
# Kinds of schemas

A schema is expressed by what it says first: that it lists its values, refers to another schema,
wraps one, or has a certain type. `kindOf` reads the kind off in this order.
-/

namespace ClientScribe.Schema

open Document (Value)

/-- What a schema says. -/
inductive Kind where
  /-- Nothing is said. -/
  | absent
  /-- The values are listed. -/
  | enumeration
  | reference
  /-- A parameter or a content with a schema inside. -/
  | wrapped
  | array
  /-- An object with further fields of one schema. -/
  | dictionary
  | object
  | integer
  | date
  /-- Any other type, or none. -/
  | primitive
  deriving DecidableEq

/-- The name of a kind. -/
def Kind.name : Kind → Text
  | absent => "absent"
  | enumeration => "enum"
  | reference => "ref"
  | wrapped => "wrapped"
  | array => "array"
  | dictionary => "map"
  | object => "object"
  | integer => "integer"
  | date => "date"
  | primitive => "primitive"

/-- Whether a format is that of dates. -/
def isDateFormat (format : Value) : Bool :=
  format.isText "date" || format.isText "date-time"

/-- Whether listed values count for a schema of this type. -/
def isListable (type : Value) : Bool :=
  type.isNull || type.isText "string" || type.isText "number"

/-- Whether the value is false itself. -/
def isFalse : Value → Bool
  | .bool b => !b
  | _ => false

/-- The kind of a schema; listed values count only if asked for. -/
def kindOf (schema : Value) (withEnumeration : Bool) : Result Kind := do
  if !schema.isTrue then return .absent
  else
    let type ← schema.field "type"
    if withEnumeration && (← schema.field "enum").isTrue && isListable type then
      return .enumeration
    else if ← schema.has "$ref" then return .reference
    else if ← schema.has "schema" then return .wrapped
    else if type.isText "array" then
      if (← schema.field "items").isMap then return .array else .error .arrayWithoutItems
    else if type.isText "object" then
      return if isFalse (← schema.fieldOr "additionalProperties" (.bool false)) then .object
        else .dictionary
    else if type.isText "integer" then return .integer
    else if type.isText "string" && isDateFormat (← schema.field "format") then return .date
    else return .primitive

end ClientScribe.Schema
