import ClientScribe.Schema.TypeExpr

/-!
# Names for the types of bodies

The body of a request or a response may have a type that is declared for it. The name under which it
is declared, or under which its elements are, comes from the schema if the schema refers to another
one, and from the operation otherwise.
-/

namespace ClientScribe.Schema

open Document (Value misfit nestingLimit)

/-- The name for the type of a schema, unless it is nested more deeply than a limit. -/
def nameWithin (fallback : Text) (ofElements : Bool) : Nat → Value → Result Text
  | 0, _ => misfit
  | limit + 1, schema => do
    match ← kindOf schema false with
    | .absent => return fallback
    | .reference => Api.referenceName (← schema.demand "$ref")
    | .wrapped => nameWithin fallback ofElements limit (← schema.demand "schema")
    | .array =>
      let brackets : Text := if ofElements then [] else "[]"
      let items ← schema.demand "items"
      if ← items.has "$ref" then
        return (← Api.referenceName (← items.demand "$ref")) ++ brackets
      else if (← items.field "type").isTrue then
        return (← nameWithin fallback ofElements limit items) ++ brackets
      else return fallback ++ brackets
    | .integer => return "number"
    | .date => return "date"
    | _ => return fallback

/-- The name for the type of a schema: that of the schema it refers to, of a type of the language,
or the fallback. Arrays put brackets behind it, unless the name of the elements is asked for. -/
def nameOf (schema : Value) (fallback : Text) (ofElements : Bool) : Result Text :=
  nameWithin fallback ofElements nestingLimit schema

/-- Whether a schema is an object with a structure of its own. -/
def isInlineObject (schema : Value) : Bool :=
  match schema.view with
  | .map entries =>
    let field (k : Text) : Option Value := Document.lookup k entries
    let type := (field "type").getD .null
    (field "$ref").isNone && (type.isNull || type.isText "object") &&
      ((field "properties").isSome || (field "allOf").isSome)
  | _ => false

/-- Whether a schema is an array of objects with a structure of their own. -/
def isInlineArray (schema : Value) : Result Bool := do
  return (← schema.field "type").isText "array" && isInlineObject (← schema.field "items")

end ClientScribe.Schema
