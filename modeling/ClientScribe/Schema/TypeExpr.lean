import ClientScribe.Api.Reference
import ClientScribe.Schema.Kind

/-!
# Types of schemas

A schema becomes a type of the client's language, and a type of its documentation. Both are
expressions of one shape; they differ in the words for what a schema leaves open and in how much of
the schema they show. In the client's language a reference is a name in the namespace of the
declared types; listed values are a union of literals. A schema that is nested too deeply has no
type.

Main definitions:

* `TypeExpr` and `TypeExpr.value` — type expressions and their text;
* `TypeExpr.references` — the declared names that a type mentions;
* `typeOf` — the type of a schema in the client's language;
* `docTypeOf` — the type of a schema in the documentation.
-/

namespace ClientScribe.Schema

open Document (Value misfit nestingLimit)

/-- A type expression. -/
inductive TypeExpr where
  /-- A type of the language itself. -/
  | word (name : Text)
  /-- The type that the schema names, which may be any value. -/
  | given (type : Value)
  /-- A union of literals. -/
  | union (literals : List Text)
  /-- A declared type, with its namespace or without. -/
  | declared (name : Text) (qualified : Bool)
  | array (element : TypeExpr)
  /-- A type in parentheses. -/
  | group (type : TypeExpr)
  /-- An object with any keys. -/
  | dictionary (element : TypeExpr)

/-- The namespace of the declared types. -/
def typeNamespace : Text := "api"

/-- The name of a declared type, with its namespace in front if it is used outside of it. -/
def qualifiedName (name : Text) (qualified : Bool) : Text :=
  if qualified then typeNamespace ++ "." ++ name else name

namespace TypeExpr

/-- The text of a type expression; a type that the schema names stays the value that it is, which
inside another type has to be a text. -/
def value : TypeExpr → Result Value
  | word name => .ok (.str name)
  | given type => .ok type
  | union literals => .ok (.str (Text.intercalate "|" literals))
  | declared name qualified => .ok (.str (qualifiedName name qualified))
  | array element => do return .str ((← (← element.value).asText) ++ "[]")
  | group type => do return .str ("(" ++ (← (← type.value).text) ++ ")")
  | dictionary element => do
    return .str ("\x7b[key: string]: " ++ (← (← element.value).text) ++ "\x7d")

/-- The declared names in a type expression. -/
def references : TypeExpr → List Text
  | word _ => []
  | given _ => []
  | union _ => []
  | declared name _ => [name]
  | array element => element.references
  | group type => type.references
  | dictionary element => element.references

end TypeExpr

/-- A code point of a literal, with a backslash before a single quote. -/
def literalPoint (c : CodePoint) : Text :=
  if c == .char '\'' then [.char '\\', c] else [c]

/-- A text as a literal: in single quotes, with a backslash before each single quote in it. -/
def quotedLiteral (s : Text) : Text :=
  "'" ++ s.flatMap literalPoint ++ "'"

/-- The literals of listed values: numbers as they are, all else in quotes. -/
def literals (values type : Value) : Result (List Text) := do
  let texts ← (← values.members).mapM Value.text
  return if type.isText "number" then texts else texts.map quotedLiteral

/-- The kind of the elements of an array, if they say what they are. -/
def elementKind (items : Value) : Result (Option Kind) := do
  if ← items.has "$ref" then return some .reference
  else if (← items.field "type").isTrue || (← items.field "enum").isTrue then
    return some (← kindOf items true)
  else return none

/-- The type that a schema names, or a word if it names none. -/
def givenOr (schema : Value) (word : Text) : Result TypeExpr := do
  let type ← schema.field "type"
  return if type.isTrue then .given type else .word word

/-- The declared type that a schema refers to. -/
def declaredBy (schema : Value) (qualified : Bool) : Result TypeExpr := do
  return .declared (← Api.referenceName (← schema.demand "$ref")) qualified

/-- The type of a schema in the client's language, unless it is nested more deeply than a limit. -/
def typeWithin (qualified : Bool) : Nat → Value → Result TypeExpr
  | 0, _ => misfit
  | limit + 1, schema => do
    match ← kindOf schema true with
    | .absent => return .word "any"
    | .enumeration => return .union (← literals (← schema.demand "enum") (← schema.field "type"))
    | .reference => declaredBy schema qualified
    | .wrapped => typeWithin qualified limit (← schema.demand "schema")
    | .array =>
      let items ← schema.demand "items"
      match ← elementKind items with
      | some .reference => return .array (← declaredBy items qualified)
      | some .enumeration => return .array (.group (← typeWithin qualified limit items))
      | none => return .array (.word "any")
      | some _ => return .array (← typeWithin qualified limit items)
    | .dictionary =>
      let further ← schema.demand "additionalProperties"
      if further.isMap then return .dictionary (← typeWithin qualified limit further)
      else return .dictionary (.word "any")
    | .object => return .word "any"
    | .integer => return .word "number"
    | .date => return .word "Date"
    | .primitive => givenOr schema "any"

/-- The type of a schema in the client's language. -/
def typeOf (schema : Value) (qualified : Bool) : Result TypeExpr :=
  typeWithin qualified nestingLimit schema

/-- The type of a schema in the documentation, unless it is nested more deeply than a limit. -/
def docTypeWithin : Nat → Value → Result TypeExpr
  | 0, _ => misfit
  | limit + 1, schema => do
    match ← kindOf schema false with
    | .absent => return .word "object"
    | .reference => declaredBy schema false
    | .wrapped => docTypeWithin limit (← schema.demand "schema")
    | .array =>
      let items ← schema.demand "items"
      if ← items.has "$ref" then return .array (← declaredBy items false)
      else if (← items.field "type").isTrue then return .array (← docTypeWithin limit items)
      else return .array (.word "object")
    | .dictionary => return .word "object"
    | .object => return .word "object"
    | .integer => return .word "number"
    | .date => return .word "date"
    | _ => givenOr schema "object"

/-- The type of a schema in the documentation. -/
def docTypeOf (schema : Value) : Result TypeExpr :=
  docTypeWithin nestingLimit schema

/-- The text of a schema's type in the client's language. -/
def typeText (schema : Value) (qualified : Bool) : Result Value := do
  (← typeOf schema qualified).value

/-- The text of a schema's type in the documentation. -/
def docTypeText (schema : Value) : Result Value := do
  (← docTypeOf schema).value

end ClientScribe.Schema
