import ClientScribe.Proofs.Client.Arguments
import ClientScribe.Proofs.Client.References

/-!
# The Types That Are Written

The names that a client mentions are those in the types that it writes. A type stands in a
signature, in what a function returns, in the type of the optional parameters, behind an equals
sign, at a member of an interface, or as the parent of one, and this module goes through these
places: each of them holds the text of a type expression all of whose names are mentioned
(`IsTypeText`), or the type of an inline body, which is made of the name that is declared for it
(`IsBodyText`).

The types of operations are in `written_of_arguments`, `written_of_returnTypeOf` and
`written_of_optionsType`, those of declarations in `written_of_declarations`.
-/

namespace ClientScribe.Client

open Api (Operation)
open Document (Value Entries)
open Schema (TypeExpr isInlineArray isInlineObject nameOf qualifiedName typeOf typeText)

variable {document : Value} {ops : List Operation} {op : Operation} {defs : Entries} {b : Bodies}

/-- The text of a type of which the client mentions all names. -/
def IsTypeText (document : Value) (ops : List Operation) (defs : Entries) (text : Value) : Prop :=
  ∃ type : TypeExpr, type.value = .ok text ∧
    ∀ name ∈ type.references, IsMentioned document ops defs name

/-- The text of the type of a body. -/
inductive IsBodyText (document : Value) (ops : List Operation) (defs : Entries) (c : Body)
    (text : Value) : Prop
  | plain (htext : IsTypeText document ops defs text)
  /-- An inline object has the name of the body for its type. -/
  | object (hobject : isInlineObject c.schema = true)
      (htext : text = .str (qualifiedName c.name true))
  /-- An array of such objects has a name with brackets behind it. -/
  | array {name : Text} (harray : isInlineArray c.schema = .ok true)
      (hname : nameOf c.schema c.name true = .ok name)
      (htext : text = .str (qualifiedName name true ++ "[]"))

/-- What is declared is another name for the text of a type, or has members with such texts. -/
def Shape.HasTypeTexts (document : Value) (ops : List Operation) (defs : Entries) : Shape → Prop
  | .alias type _ => IsTypeText document ops defs type
  | .interface members => ∀ m ∈ members, IsTypeText document ops defs m.type

/-- The text of a schema's type is one whose names the client mentions. -/
theorem isTypeText_of_typeText {schema text : Value} {qualified : Bool}
    (hnames : ∀ type, typeOf schema qualified = .ok type →
      ∀ name ∈ type.references, IsMentioned document ops defs name)
    (h : typeText schema qualified = .ok text) : IsTypeText document ops defs text := by
  obtain ⟨type, htype, hvalue⟩ := Result.bind_eq_ok_iff.mp h
  exact ⟨type, hvalue, hnames type htype⟩

/-! ### Types of operations -/

/-- So is the text of the type of a parameter. -/
theorem isTypeText_of_parameter {split : Api.Parameters} {p text : Value} (hop : op ∈ ops)
    (hsplit : Api.partitioned document op.parameters = .ok split)
    (hp : p ∈ split.required ++ split.optional) (h : typeText p true = .ok text) :
    IsTypeText document ops defs text :=
  isTypeText_of_typeText (fun _ htype _ => .parameter hop hsplit hp htype) h

/-- The text of the type of a body is of one of these three kinds. -/
theorem isBodyText_of_bodyType {c : Body} {text : Value} (hop : op ∈ ops)
    (hb : bodies document op = .ok b) (hc : c ∈ b.toList)
    (h : bodyType c.schema c.name = .ok text) :
    IsBodyText document ops defs c text := by
  unfold bodyType at h
  split at h
  · obtain rfl := Except.ok.inj h
    exact .plain ⟨.word "any", rfl, fun _ hname => by cases hname⟩
  split at h
  · next hobject =>
    obtain rfl := Except.ok.inj h
    exact .object hobject rfl
  · next hobject =>
    obtain ⟨isArray, harray, h⟩ := Result.bind_eq_ok_iff.mp h
    cases isArray with
    | true =>
        simp only [if_true, Result.bind_eq_ok_iff, Result.pure_def, Except.ok.injEq] at h
        obtain ⟨name, hname, rfl⟩ := h
        exact .array harray hname rfl
    | false =>
        refine .plain (isTypeText_of_typeText (fun _ htype _ => ?_) h)
        exact .body hop hb hc (Bool.eq_false_iff.mpr hobject) harray htype

/-- **The types in a signature** are those of the required parameters, that of the request, and the
type of the optional parameters. -/
theorem written_of_arguments {package : Text} {args : List Argument} {a : Argument}
    (hop : op ∈ ops) (hb : bodies document op = .ok b)
    (hargs : arguments document op true package = .ok args) (ha : a ∈ args) :
    ∃ type, a.type = some type ∧
      ((∃ text, IsTypeText document ops defs text ∧ text.text = .ok type) ∨
        (∃ text, IsBodyText document ops defs b.request text ∧ text.text = .ok type) ∨
        ∃ id name, op.id.asText = .ok id ∧ Identifier.optionsTypeName id = .ok name ∧
          type = package ++ name) := by
  obtain ⟨split, row, hrow, rfl⟩ := arguments_eq_ok_iff.mp hargs
  rw [ArgumentRow.toList, List.mem_append, List.mem_append, Option.mem_toList,
    Option.mem_toList] at ha
  obtain (hrequired | hbody) | hoptional := ha
  · obtain ⟨p, hp, h⟩ := Result.exists_of_mem_mapM hrow.required hrequired
    simp only [requiredArgument, if_true, Result.bind_eq_ok_iff, Result.pure_def,
      Except.ok.injEq] at h
    obtain ⟨_, -, text, htext, type, htype, rfl⟩ := h
    have hwritten : IsTypeText document ops defs text :=
      isTypeText_of_parameter hop hrow.split (List.mem_append_left _ hp) htext
    exact ⟨type, rfl, .inl ⟨text, hwritten, htype⟩⟩
  · have h := hrow.body a hbody
    simp only [bodyArgument_of_bodies hb, Result.bind_eq_ok_iff, Except.ok.injEq] at h
    obtain ⟨type, ⟨text, htext, htype⟩, rfl⟩ := h
    have hwritten : IsBodyText document ops defs b.request text :=
      isBodyText_of_bodyType hop hb List.mem_cons_self htext
    exact ⟨type, rfl, .inr (.inl ⟨text, hwritten, htype⟩)⟩
  · have h := hrow.optional a hoptional
    simp only [optionsArgument, if_true, Result.bind_eq_ok_iff, Result.pure_def,
      Except.ok.injEq] at h
    obtain ⟨id, hid, name, hname, rfl⟩ := h
    exact ⟨package ++ name, rfl, .inr (.inr ⟨id, name, hid, hname, rfl⟩)⟩

/-- **What a function returns** is of the type of the best response. -/
theorem written_of_returnTypeOf {text : Value} (hop : op ∈ ops) (hb : bodies document op = .ok b)
    (h : returnTypeOf op = .ok text) : IsBodyText document ops defs b.response text :=
  isBodyText_of_bodyType hop hb (List.mem_cons_of_mem _ List.mem_cons_self)
    (returnTypeOf_of_bodies hb ▸ h)

/-- **The types of the optional parameters** are those of their schemas. -/
theorem written_of_optionsType {split : Api.Parameters} {type : OptionsType} {p : OptionProperty}
    (hop : op ∈ ops) (hsplit : Api.partitioned document op.parameters = .ok split)
    (h : optionsType op split.optional = .ok (some type)) (hp : p ∈ type.properties) :
    IsTypeText document ops defs p.type := by
  unfold optionsType at h
  split at h
  · cases h
  · simp only [Result.bind_eq_ok_iff, Result.pure_def, Except.ok.injEq, Option.some.injEq] at h
    obtain ⟨_, -, _, -, properties, hproperties, rfl⟩ := h
    obtain ⟨parameter, hparameter, h⟩ := Result.exists_of_mem_mapM hproperties hp
    simp only [optionProperty, Result.bind_eq_ok_iff, Result.pure_def, Except.ok.injEq] at h
    obtain ⟨_, -, text, htext, _, -, _, -, rfl⟩ := h
    exact isTypeText_of_parameter hop hsplit (List.mem_append_right _ hparameter) htext

/-! ### Types of declarations -/

/-- The parent of a declaration is that of an inheritance. -/
theorem exists_inheritance_of_parentAndBody {name definition part : Value} {parent? : Option Text}
    {parent : Text} (h : parentAndBody name definition = .ok (parent?, part))
    (hparent : parent ∈ parent?) : ∃ combined inheritance,
      definition.get? "allOf" = some combined ∧
        Schema.inheritanceOf name combined = .ok inheritance ∧ inheritance.parent = parent := by
  simp only [parentAndBody, Result.bind_eq_ok_iff] at h
  obtain ⟨combines, -, h⟩ := h
  cases combines with
  | true =>
      simp only [if_true, Result.bind_eq_ok_iff, Value.demand_eq_ok_iff, Result.pure_def,
        Except.ok.injEq, Prod.mk.injEq] at h
      obtain ⟨combined, hcombined, inheritance, hinheritance, rfl, -⟩ := h
      exact ⟨combined, inheritance, hcombined, hinheritance, Option.some.inj hparent⟩
  | false =>
      obtain ⟨rfl, -⟩ : none = parent? ∧ definition = part := by simpa using h
      cases hparent

/-- The members of an interface are those of the properties of its definition. -/
theorem exists_property_of_mem_members {part : Value} {ms : List Member} {m : Member}
    (h : members part = .ok ms) (hm : m ∈ ms) : ∃ properties es property,
      part.get? "properties" = some properties ∧ properties.entries = .ok es ∧ property ∈ es ∧
        typeText property.2 false = .ok m.type := by
  simp only [members, Result.bind_eq_ok_iff] at h
  obtain ⟨required, -, given, hgiven, es, hes, hmembers⟩ := h
  obtain ⟨property, hproperty, hmember⟩ := Result.exists_of_mem_mapM hmembers hm
  have hmem : property ∈ es := by
    obtain h | h := List.mem_append.mp hproperty
    · exact List.mem_of_mem_filter h
    · exact List.mem_of_mem_filter h
  simp only [member, Result.bind_eq_ok_iff, Result.pure_def, Except.ok.injEq] at hmember
  obtain ⟨type, htype, _, -, _, -, _, -, _, -, _, -, rfl⟩ := hmember
  obtain ⟨-, rfl⟩ := Value.field_eq_ok_iff.mp hgiven
  rw [Value.orElse] at hes
  split at hes
  · cases hget : part.get? "properties" with
    | none => simp [hget, Value.isTrue] at *
    | some properties =>
        rw [hget, Option.getD_some] at hes
        exact ⟨properties, es, property, rfl, hes, hmem, htype⟩
  · obtain rfl := Except.ok.inj hes
    cases hmem

/-- A declared definition writes the types of its part that says its shape. -/
theorem written_of_shapeOf {e : Value × Value} {part : Value} {shape : Shape} (he : e ∈ defs)
    (hdeclared : isDeclared e.2 = true) (hpart : shapePart? e.2 = some part)
    (h : shapeOf part = .ok shape) :
    shape.HasTypeTexts document ops defs := by
  simp only [shapeOf, Result.bind_eq_ok_iff] at h
  obtain ⟨type, htype, h⟩ := h
  obtain ⟨-, rfl⟩ := Value.field_eq_ok_iff.mp htype
  split at h
  · next harray =>
    simp only [Result.bind_eq_ok_iff, Result.pure_def, Except.ok.injEq] at h
    obtain ⟨text, htext, _, -, rfl⟩ := h
    exact isTypeText_of_typeText (fun _ htype _ => .otherName he hdeclared hpart harray htype) htext
  · next harray =>
    simp only [Result.bind_eq_ok_iff, Result.pure_def, Except.ok.injEq] at h
    obtain ⟨ms, hms, rfl⟩ := h
    intro m hm
    obtain ⟨properties, es, property, hproperties, hes, hproperty, htext⟩ :=
      exists_property_of_mem_members hms hm
    exact isTypeText_of_typeText (fun _ htype _ => .member he hdeclared hpart
      (Bool.eq_false_iff.mpr harray) hproperties hes hproperty htype) htext

/-- **The types in the file of types** are the parents of interfaces, the types that others are
names for, and those of members. -/
theorem written_of_declarations {declared : List Declaration} {d : Declaration}
    (h : (declarations defs).result = .ok declared) (hd : d ∈ declared) :
    (∀ parent ∈ d.parent, IsMentioned document ops defs parent) ∧
      d.shape.HasTypeTexts document ops defs := by
  simp only [declarations, Logged.result_bind, Logged.result_mapM, Logged.result_pure,
    Result.bind_eq_ok_iff, Except.ok.injEq] at h
  obtain ⟨all, hall, rfl⟩ := h
  obtain ⟨e, he, hdeclaration⟩ := Result.exists_of_mem_mapM hall (by simpa using hd)
  have hdeclared : isDeclared e.2 = true := by
    have hname := name_of_result_declaration hdeclaration
    split at hname
    · assumption
    · cases hname
  obtain ⟨part, _, hpart, -, -, hshape⟩ := parentAndBody_of_result_declaration hdeclaration
  refine ⟨fun parent hparent => ?_,
    written_of_shapeOf he hdeclared (shapePart?_of_parentAndBody hpart) hshape⟩
  obtain ⟨combined, inheritance, hcombined, hinheritance, hname⟩ :=
    exists_inheritance_of_parentAndBody hpart hparent
  exact .parent he hdeclared hcombined hinheritance hname

end ClientScribe.Client
