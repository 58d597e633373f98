import ClientScribe.Client.Definition
import ClientScribe.Client.Description
import ClientScribe.Options
import ClientScribe.Schema.Inheritance

/-!
# Declarations

A definition is declared as an interface with members, or as another name for an array type. A
definition that is only a reference is not declared, and neither is one without a declarable shape.
The required members of an interface come first, the others after them, both in the order in which
the definition lists them.
-/

namespace ClientScribe.Client

open Api (Operation)
open Document (Value Entries record misfit)

/-- A member of an interface. -/
structure Member where
  name : Value
  optional : Bool
  type : Value
  docType : Value
  format : Value
  description : Text
  docDescription : Text

/-- What is declared. -/
inductive Shape where
  /-- Another name for a type. -/
  | alias (type docType : Value)
  | interface (members : List Member)

/-- A declaration. -/
structure Declaration where
  name : Value
  parent : Option Text
  description : Text
  shape : Shape

/-- Whether a definition has a declarable shape. -/
def isDeclarable (definition : Value) : Result Bool := do
  let type ← definition.field "type"
  if type.isText "object" || type.isText "array" then return true
  else if type.isNull then definition.has "properties"
  else return false

/-- The member of a property. -/
def member (name property : Value) (optional : Bool) : Result Member := do
  let type ← Schema.typeText property false
  let docType ← Schema.docTypeText property
  let format ← property.field "format"
  let description ← property.field "description"
  return ⟨name, optional, type, docType, format, ← describe description memberCommentLine,
    ← describe description commentLine⟩

/-- The names of the properties that must be there. -/
def requiredNames (definition : Value) : Result (List Value) := do
  let names ← ((← definition.field "required").orElse (.list [])).members
  if names.all Value.isKey then return names else misfit

/-- Properties with those first whose name is required. -/
def requiredFirst (required : List Value) (properties : Entries) : Entries :=
  let isRequired (e : Value × Value) : Bool := required.any e.1.same
  properties.filter isRequired ++ properties.filter (!isRequired ·)

/-- The members of an interface. -/
def members (definition : Value) : Result (List Member) := do
  let required ← requiredNames definition
  let properties ← ((← definition.field "properties").orElse (.map [])).entries
  (requiredFirst required properties).mapM fun (name, property) =>
    member name property (!required.any name.same)

/-- What is declared for a definition with a declarable shape. -/
def shapeOf (definition : Value) : Result Shape := do
  if (← definition.field "type").isText "array" then
    return .alias (← Schema.typeText definition false) (← Schema.docTypeText definition)
  else return .interface (← members definition)

/-- The parent of a definition and the schema that says the rest. -/
def parentAndBody (name definition : Value) : Result (Option Text × Value) := do
  if ← definition.has "allOf" then
    let inheritance ← Schema.inheritanceOf name (← definition.demand "allOf")
    return (some inheritance.parent, inheritance.extension)
  else return (none, definition)

/-- The declaration of a definition, if it is declared. -/
def declaration (name definition : Value) : Logged (Option Declaration) := do
  let (parent, body) ← (parentAndBody name definition : Result _)
  if ← (body.has "$ref" : Result Bool) then
    Logged.note (.skippedReference (← (body.demand "$ref" : Result Value)))
    return none
  else if ← (isDeclarable body : Result Bool) then
    let description ← (body.field "description" : Result Value)
    let description ← (describe description commentLine : Result Text)
    let shape ← (shapeOf body : Result Shape)
    return some ⟨name, parent, description, shape⟩
  else
    Logged.note (.notDeclarable name (← (body.field "type" : Result Value)))
    return none

/-- The declarations of definitions, in order. -/
def declarations (defs : Entries) : Logged (List Declaration) := do
  let all ← defs.mapM fun (name, definition) => declaration name definition
  return all.filterMap id

/-- All that goes into the file of types. -/
structure TypesView where
  typed : Bool
  statementEnd : Text
  declarations : List Declaration

/-- What goes into the file of types. -/
def typesView (document : Value) (ops : List Operation) (options : Options) :
    Logged TypesView := do
  let declared ← declarations (← definitions document ops)
  return ⟨options.typed, options.statementEnd, declared⟩

/-- The member as a value. -/
def Member.toValue (m : Member) : Value :=
  record [("name", m.name), ("optional", .bool m.optional), ("type", m.type),
    ("doc_type", m.docType), ("format", m.format), ("description", .str m.description),
    ("doc_description", .str m.docDescription)]

/-- The declaration as a value. -/
def Declaration.toValue (d : Declaration) : Value :=
  let parent : Value :=
    match d.parent with
    | some parent => .str parent
    | none => .null
  let start : List (Text × Value) :=
    [("name", d.name), ("parent", parent), ("description", .str d.description)]
  let shape : List (Text × Value) :=
    match d.shape with
    | .alias type docType =>
      [("kind", .str "alias"), ("type", type), ("doc_type", docType), ("props", .list [])]
    | .interface members =>
      [("kind", .str "interface"), ("props", .list (members.map Member.toValue))]
  record (start ++ shape)

/-- The contents of the file of types as a value. -/
def TypesView.toValue (v : TypesView) : Value :=
  record [("typed", .bool v.typed), ("st", .str v.statementEnd),
    ("declarations", .list (v.declarations.map Declaration.toValue))]

end ClientScribe.Client
