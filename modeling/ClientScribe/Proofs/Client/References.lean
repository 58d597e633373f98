import ClientScribe.Output.ClientFile
import ClientScribe.Proofs.Client.DeclaredNames
import Mathlib.Data.List.TakeWhile

/-!
# Names of Declared Types

Where a schema refers to another one, the client writes the name that the reference ends with. The
name is not looked up. So whether the client declares what it names is decided apart from where it
names it, by the shape of the definition that the registry has under the name.

This module says which references a schema has, itself or inside (`Refers`), and which names the
client mentions (`IsMentioned`). Every name that is mentioned comes from a reference in the
description (`exists_reference_of_isMentioned`), and of a description whose references lead to its
schemas it is said exactly which of the names are declared (`mentioned_declared_iff`): those whose
definition has a declarable shape. A reference to any other schema, such as a text with certain
values, leaves a name in the client that nothing declares (`exists_mentioned_not_declared`).
-/

namespace ClientScribe.Client

open Api (Operation lastSegment referenceName)
open Document (Value Entries lookup put record)
open Schema (TypeExpr isInlineArray isInlineObject kindOf typeOf typeWithin)

variable {document : Value} {ops : List Operation} {defs named : Entries} {options : Options}
  {schema definition reference : Value} {name : Text}

/-! ### References of a schema -/

/-- The schemas that stand directly inside a schema: what it wraps, its elements and further fields,
its properties, and the two schemas that it combines. -/
def partsOf (schema : Value) : List Value :=
  ["schema", "items", "additionalProperties"].filterMap (fun k => schema.get? (Text.ofString k)) ++
    (((schema.get? "properties").getD .null).entries.toOption.getD []).map Prod.snd ++
    [0, 1].filterMap fun n => (((schema.get? "allOf").getD .null).member n).toOption

/-- A schema has this reference, itself or in a schema inside it. -/
inductive Refers (reference : Value) : Value → Prop
  | here {schema : Value} : schema.get? "$ref" = some reference → Refers reference schema
  | inside {schema part : Value} : part ∈ partsOf schema → Refers reference part →
      Refers reference schema

/-- What a schema wraps, its elements and its further fields are inside it. -/
theorem mem_partsOf_of_get? {k : String} {part : Value}
    (hk : k ∈ ["schema", "items", "additionalProperties"])
    (h : schema.get? (Text.ofString k) = some part) : part ∈ partsOf schema :=
  List.mem_append_left _ (List.mem_append_left _ (List.mem_filterMap.mpr ⟨k, hk, h⟩))

/-- The properties of a schema are inside it. -/
theorem mem_partsOf_of_properties {properties : Value} {es : Entries} {e : Value × Value}
    (h : schema.get? "properties" = some properties) (hes : properties.entries = .ok es)
    (he : e ∈ es) : e.2 ∈ partsOf schema := by
  refine List.mem_append_left _ (List.mem_append_right _ (List.mem_map.mpr ⟨e, ?_, rfl⟩))
  rw [h, Option.getD_some, hes]
  exact he

/-- The two schemas that a schema combines are inside it. -/
theorem mem_partsOf_of_member {combined part : Value} {n : Nat}
    (h : schema.get? "allOf" = some combined) (hn : n ∈ [0, 1])
    (hpart : combined.member n = .ok part) : part ∈ partsOf schema := by
  refine List.mem_append_right _ (List.mem_filterMap.mpr ⟨n, hn, ?_⟩)
  rw [h, Option.getD_some, hpart]
  rfl

/-- The declared type that a schema refers to is named after a reference of the schema. -/
theorem exists_reference_of_declaredBy {qualified : Bool} {type : TypeExpr}
    (h : Schema.declaredBy schema qualified = .ok type) (hname : name ∈ type.references) :
    ∃ reference, Refers reference schema ∧ referenceName reference = .ok name := by
  simp only [Schema.declaredBy, Result.bind_eq_ok_iff, Result.pure_def, Except.ok.injEq,
    Value.demand_eq_ok_iff] at h
  obtain ⟨reference, href, written, hwritten, rfl⟩ := h
  obtain rfl := List.mem_singleton.mp hname
  exact ⟨reference, .here href, hwritten⟩

/-- **The names in a type.** What the type of a schema mentions is the name that a reference of the
schema ends with. -/
theorem exists_reference_of_typeWithin {qualified : Bool} {limit : Nat} {type : TypeExpr}
    (h : typeWithin qualified limit schema = .ok type) (hname : name ∈ type.references) :
    ∃ reference, Refers reference schema ∧ referenceName reference = .ok name := by
  induction limit generalizing schema type with
  | zero => cases h
  | succ limit ih =>
      simp only [typeWithin, Result.bind_eq_ok_iff] at h
      obtain ⟨kind, -, h⟩ := h
      -- a schema inside gives its references to the schema around it
      have hinside {part : Value} {type : TypeExpr} (hpart : part ∈ partsOf schema)
          (h : typeWithin qualified limit part = .ok type) (hname : name ∈ type.references) :
          ∃ reference, Refers reference schema ∧ referenceName reference = .ok name := by
        obtain ⟨reference, hrefers, hreference⟩ := ih h hname
        exact ⟨reference, .inside hpart hrefers, hreference⟩
      cases kind with
      | reference => exact exists_reference_of_declaredBy h hname
      | wrapped =>
          simp only [Result.bind_eq_ok_iff, Value.demand_eq_ok_iff] at h
          obtain ⟨part, hpart, h⟩ := h
          exact hinside (mem_partsOf_of_get? (by decide) hpart) h hname
      | array =>
          simp only [Result.bind_eq_ok_iff, Value.demand_eq_ok_iff] at h
          obtain ⟨items, hitems, elements, -, h⟩ := h
          have hpart : items ∈ partsOf schema := mem_partsOf_of_get? (by decide) hitems
          split at h
          · simp only [Result.bind_eq_ok_iff, Result.pure_def, Except.ok.injEq] at h
            obtain ⟨element, helement, rfl⟩ := h
            obtain ⟨reference, hrefers, hreference⟩ := exists_reference_of_declaredBy helement hname
            exact ⟨reference, .inside hpart hrefers, hreference⟩
          · simp only [Result.bind_eq_ok_iff, Result.pure_def, Except.ok.injEq] at h
            obtain ⟨element, helement, rfl⟩ := h
            exact hinside hpart helement hname
          · obtain rfl := Except.ok.inj h
            cases hname
          · simp only [Result.bind_eq_ok_iff, Result.pure_def, Except.ok.injEq] at h
            obtain ⟨element, helement, rfl⟩ := h
            exact hinside hpart helement hname
      | dictionary =>
          simp only [Result.bind_eq_ok_iff, Value.demand_eq_ok_iff] at h
          obtain ⟨further, hfurther, h⟩ := h
          split at h
          · simp only [Result.bind_eq_ok_iff, Result.pure_def, Except.ok.injEq] at h
            obtain ⟨element, helement, rfl⟩ := h
            exact hinside (mem_partsOf_of_get? (by decide) hfurther) helement hname
          · obtain rfl := Except.ok.inj h
            cases hname
      | enumeration =>
          simp only [Result.bind_eq_ok_iff, Result.pure_def, Except.ok.injEq] at h
          obtain ⟨_, -, _, -, _, -, rfl⟩ := h
          cases hname
      | primitive =>
          simp only [Schema.givenOr, Result.bind_eq_ok_iff, Result.pure_def, Except.ok.injEq] at h
          obtain ⟨_, -, rfl⟩ := h
          split at hname <;> cases hname
      | _ =>
          obtain rfl := Except.ok.inj h
          cases hname

/-- The definition of an inline body has no other references than the body. -/
theorem refers_of_ownDefinition? {own : Value} (h : ownDefinition? schema = some own)
    (hrefers : Refers reference own) : Refers reference schema := by
  cases hobject : isInlineObject schema with
  | true =>
      rw [ownDefinition?_of_isInlineObject hobject] at h
      exact Option.some.inj h ▸ hrefers
  | false =>
      obtain ⟨items, helements, rfl⟩ :
          ∃ items, inlineElements? schema = some items ∧ elementsDefinition schema items = own := by
        simpa [ownDefinition?, hobject] using h
      obtain ⟨-, -, hitems, hinline⟩ := inlineElements?_eq_some_iff.mp helements
      obtain ⟨hview, -⟩ := isInlineObject_iff.mp hinline
      -- beside type and description the definition has the fields of the elements
      have hparts : partsOf (elementsDefinition schema items) = partsOf items := by
        have hfields : ["schema", "items", "additionalProperties"].filterMap
            (fun k => (elementsDefinition schema items).get? (Text.ofString k)) =
              ["schema", "items", "additionalProperties"].filterMap
                fun k => items.get? (Text.ofString k) := by
          refine List.filterMap_congr fun k hk => get?_elementsDefinition hview ?_ ?_
          all_goals
            rw [Ne, Text.ofString_inj]
            rintro rfl
            exact absurd hk (by decide)
        rw [partsOf, hfields, get?_elementsDefinition hview (by decide) (by decide),
          get?_elementsDefinition hview (by decide) (by decide), ← partsOf]
      have helement : Refers reference items := by
        cases hrefers with
        | here href =>
            rw [get?_elementsDefinition hview (by decide) (by decide)] at href
            exact .here href
        | inside hpart hrefers => exact .inside (hparts ▸ hpart) hrefers
      exact .inside (mem_partsOf_of_get? (by decide) hitems) helement

/-! ### References of a description -/

/-- A description with these operations has this reference in a schema: in that of a parameter, in
that of the body of a request or of a best response, or in one that it keeps under a name. -/
inductive IsReferred (document : Value) (ops : List Operation) (reference : Value) : Prop
  | parameter {op : Operation} {split : Api.Parameters} {p : Value} (hop : op ∈ ops)
      (hsplit : Api.partitioned document op.parameters = .ok split)
      (hp : p ∈ split.required ++ split.optional) (hrefers : Refers reference p)
  | body {op : Operation} {b : Bodies} {c : Body} (hop : op ∈ ops)
      (hb : bodies document op = .ok b) (hc : c ∈ b.toList) (hrefers : Refers reference c.schema)
  | component {named : Entries} {e : Value × Value}
      (hnamed : (Api.schemas document >>= Value.asEntries) = .ok named) (he : e ∈ named)
      (hrefers : Refers reference e.2)

/-- Every reference of a definition is one of the description. -/
theorem isReferred_of_mem_definitions (hdefs : (definitions document ops).result = .ok defs)
    {e : Value × Value} (he : e ∈ defs) (hrefers : Refers reference e.2) :
    IsReferred document ops reference := by
  have hall : ∀ e ∈ defs, ∀ reference, Refers reference e.2 →
      IsReferred document ops reference := by
    refine definitions_induction (P := fun defs => ∀ e ∈ defs, ∀ reference,
      Refers reference e.2 → IsReferred document ops reference) ?_
      (fun named hnamed e he reference hrefers => .component hnamed he hrefers) hdefs
    intro op hop b hb c hc own hown es k hes e he reference hrefers
    rcases Document.snd_of_mem_put he with hvalue | he
    · rw [hvalue] at hrefers
      exact .body hop hb hc (refers_of_ownDefinition? hown hrefers)
    · exact hes e he reference hrefers
  exact hall e he reference hrefers

/-! ### Names in the client -/

/-- The client mentions a name as that of a declared type. -/
inductive IsMentioned (document : Value) (ops : List Operation) (defs : Entries) (name : Text) :
    Prop
  /-- In the type of a parameter, in a signature or in the type of the optional parameters. -/
  | parameter {op : Operation} {split : Api.Parameters} {p : Value} {type : TypeExpr}
      (hop : op ∈ ops) (hsplit : Api.partitioned document op.parameters = .ok split)
      (hp : p ∈ split.required ++ split.optional) (htype : typeOf p true = .ok type)
      (hname : name ∈ type.references)
  /-- In the type of a body that is not inline, in a signature or as what a function returns. -/
  | body {op : Operation} {b : Bodies} {c : Body} {type : TypeExpr} (hop : op ∈ ops)
      (hb : bodies document op = .ok b) (hc : c ∈ b.toList)
      (hobject : isInlineObject c.schema = false) (harray : isInlineArray c.schema = .ok false)
      (htype : typeOf c.schema true = .ok type) (hname : name ∈ type.references)
  /-- In the type that a definition of an array is another name for. -/
  | otherName {e : Value × Value} {part : Value} {type : TypeExpr} (he : e ∈ defs)
      (hdeclared : isDeclared e.2 = true) (hpart : shapePart? e.2 = some part)
      (harray : ((part.get? "type").getD .null).isText "array" = true)
      (htype : typeOf part false = .ok type) (hname : name ∈ type.references)
  /-- In the type of a member of an interface. -/
  | member {e property : Value × Value} {part properties : Value} {es : Entries} {type : TypeExpr}
      (he : e ∈ defs) (hdeclared : isDeclared e.2 = true) (hpart : shapePart? e.2 = some part)
      (harray : ((part.get? "type").getD .null).isText "array" = false)
      (hproperties : part.get? "properties" = some properties)
      (hes : properties.entries = .ok es) (hproperty : property ∈ es)
      (htype : typeOf property.2 false = .ok type) (hname : name ∈ type.references)
  /-- As the parent of an interface. -/
  | parent {e : Value × Value} {combined : Value} {inheritance : Schema.Inheritance} (he : e ∈ defs)
      (hdeclared : isDeclared e.2 = true) (hcombined : e.2.get? "allOf" = some combined)
      (hinheritance : Schema.inheritanceOf e.1 combined = .ok inheritance)
      (hname : inheritance.parent = name)

/-- The part of a definition that says its shape has no other references than the definition. -/
theorem refers_of_shapePart? {part : Value} (h : shapePart? definition = some part)
    (hrefers : Refers reference part) : Refers reference definition := by
  unfold shapePart? at h
  split at h
  · exact Option.some.inj h ▸ hrefers
  · next combined hcombined =>
    cases hmember : combined.member 1 with
    | error _ =>
        rw [hmember] at h
        cases h
    | ok extension =>
        rw [hmember] at h
        obtain rfl := Option.some.inj h
        exact .inside (mem_partsOf_of_member hcombined (by decide) hmember) hrefers

/-- The parent of a type is the name that a reference of its definition ends with. -/
theorem exists_reference_of_inheritanceOf {key combined : Value} {inheritance : Schema.Inheritance}
    (hcombined : definition.get? "allOf" = some combined)
    (h : Schema.inheritanceOf key combined = .ok inheritance) :
    ∃ reference, Refers reference definition ∧
      referenceName reference = .ok inheritance.parent := by
  simp only [Schema.inheritanceOf, ite_eq_iff, Result.bind_eq_ok_iff, reduceCtorEq, and_false,
    exists_false, false_or, Result.pure_def, Except.ok.injEq, Value.demand_eq_ok_iff] at h
  obtain ⟨-, _, -, -, parent, hparent, -, _, -, -, reference, href, written, hwritten, _, -,
    rfl⟩ := h
  exact ⟨reference, .inside (mem_partsOf_of_member hcombined (by decide) hparent) (.here href),
    hwritten⟩

/-- **Every name that the client mentions** is the one that a reference of the description ends
with. -/
theorem exists_reference_of_isMentioned (hdefs : (definitions document ops).result = .ok defs)
    (h : IsMentioned document ops defs name) :
    ∃ reference, IsReferred document ops reference ∧ referenceName reference = .ok name := by
  cases h with
  | parameter hop hsplit hp htype hname =>
      obtain ⟨reference, hrefers, hreference⟩ := exists_reference_of_typeWithin htype hname
      exact ⟨reference, .parameter hop hsplit hp hrefers, hreference⟩
  | body hop hb hc _ _ htype hname =>
      obtain ⟨reference, hrefers, hreference⟩ := exists_reference_of_typeWithin htype hname
      exact ⟨reference, .body hop hb hc hrefers, hreference⟩
  | otherName he _ hpart _ htype hname =>
      obtain ⟨reference, hrefers, hreference⟩ := exists_reference_of_typeWithin htype hname
      exact ⟨reference, isReferred_of_mem_definitions hdefs he
        (refers_of_shapePart? hpart hrefers), hreference⟩
  | member he _ hpart _ hproperties hes hproperty htype hname =>
      obtain ⟨reference, hrefers, hreference⟩ := exists_reference_of_typeWithin htype hname
      have hinside := Refers.inside (mem_partsOf_of_properties hproperties hes hproperty) hrefers
      exact ⟨reference, isReferred_of_mem_definitions hdefs he
        (refers_of_shapePart? hpart hinside), hreference⟩
  | parent he _ hcombined hinheritance hname =>
      obtain ⟨reference, hrefers, hreference⟩ :=
        exists_reference_of_inheritanceOf hcombined hinheritance
      exact ⟨reference, isReferred_of_mem_definitions hdefs he hrefers, hname ▸ hreference⟩

/-- What stands in front of a slash does not change the last segment of a text. -/
theorem lastSegment_append_slash (s t : Text) :
    lastSegment (s ++ .char '/' :: t) = lastSegment t := by
  rw [lastSegment, lastSegment, List.reverse_append, List.reverse_cons, List.append_assoc,
    List.takeWhile_append, List.singleton_append, List.takeWhile_cons_of_neg (by simp)]
  split
  · next hall =>
    rw [List.append_nil, (List.takeWhile_prefix _).eq_of_length hall]
  · rfl

/-- A text without a slash is its last segment. -/
theorem lastSegment_of_not_mem {s : Text} (h : .char '/' ∉ s) : lastSegment s = s := by
  have hall : s.reverse.takeWhile (· != .char '/') = s.reverse := by
    refine List.takeWhile_eq_self_iff.mpr fun c hc => ?_
    have hne : c ≠ .char '/' := fun heq => h (heq ▸ List.mem_reverse.mp hc)
    simpa using hne
  rw [lastSegment, hall, List.reverse_reverse]

/-- The name that a reference to a schema ends with is that of the schema, behind its last slash. -/
theorem referenceName_schemaReferenceStart (n : Text) :
    referenceName (.str (schemaReferenceStart ++ n)) = .ok (lastSegment n) := by
  have hstart : schemaReferenceStart = Text.ofString "#/components/schemas" ++ [.char '/'] := by
    decide +kernel
  rw [hstart, List.append_assoc, List.singleton_append, referenceName, Value.asText, Result.ok_bind,
    Result.pure_def, lastSegment_append_slash]

/-- **When the client declares the names that it mentions.** If every reference of a description
leads to one of its schemas, the client mentions the names of these schemas only, each behind its
last slash if it has any. Under a name without a slash there is a definition. The client declares a
name exactly if a definition under it has a declarable shape; so it declares all names that it
mentions if the schemas that are referred to have such definitions. -/
theorem mentioned_declared_iff {view : TypesView}
    (hnamed : (Api.schemas document >>= Value.asEntries) = .ok named)
    (hrefs : ∀ reference, IsReferred document ops reference → ∃ n component,
      reference = .str (schemaReferenceStart ++ n) ∧ lookup n named = some component)
    (h : (typesView document ops options).result = .ok view) :
    ∃ defs, (definitions document ops).result = .ok defs ∧
      (∀ name, IsMentioned document ops defs name →
        (∃ n, IsReferred document ops (.str (schemaReferenceStart ++ n)) ∧ name = lastSegment n ∧
          (.char '/' ∉ n → name = n ∧ (lookup name defs).isSome = true)) ∧
        ((∃ d ∈ view.declarations, d.name = .str name) ↔
          ∃ definition, (.str name, definition) ∈ defs ∧ isDeclared definition = true)) ∧
      ((∀ n, IsReferred document ops (.str (schemaReferenceStart ++ n)) → .char '/' ∉ n ∧
          ∃ definition, (.str n, definition) ∈ defs ∧ isDeclared definition = true) →
        ∀ name, IsMentioned document ops defs name →
          ∃ d ∈ view.declarations, d.name = .str name) := by
  simp only [typesView, Logged.result_bind, Logged.result_pure, Result.bind_eq_ok_iff,
    Except.ok.injEq] at h
  obtain ⟨defs, hdefs, declared, hdeclared, rfl⟩ := h
  have hregistered {n : Text} {component : Value} (hn : lookup n named = some component) :
      (lookup n defs).isSome = true := by
    obtain ⟨named', hnamed', hfold⟩ := result_definitions_eq_ok_iff.mp hdefs
    obtain rfl := Except.ok.inj (hnamed.symm.trans hnamed')
    exact lookup_isSome_of_foldlM_addBodies hfold (by rw [hn]; rfl)
  have hsource {name : Text} (hname : IsMentioned document ops defs name) :
      ∃ n, IsReferred document ops (.str (schemaReferenceStart ++ n)) ∧ name = lastSegment n ∧
        (.char '/' ∉ n → name = n ∧ (lookup name defs).isSome = true) := by
    obtain ⟨reference, hreferred, hreference⟩ := exists_reference_of_isMentioned hdefs hname
    obtain ⟨n, component, rfl, hn⟩ := hrefs reference hreferred
    rw [referenceName_schemaReferenceStart] at hreference
    obtain rfl := Except.ok.inj hreference
    refine ⟨n, hreferred, rfl, fun hslash => ?_⟩
    rw [lastSegment_of_not_mem hslash]
    exact ⟨rfl, hregistered hn⟩
  have hiff (name : Text) := exists_mem_declarations_iff hdeclared (.str name)
  refine ⟨defs, hdefs, fun name hname => ⟨hsource hname, hiff name⟩, fun hall name hname => ?_⟩
  obtain ⟨n, hreferred, hlast, -⟩ := hsource hname
  obtain ⟨hslash, hdefinition⟩ := hall n hreferred
  rw [lastSegment_of_not_mem hslash] at hlast
  exact (hiff name).mpr (hlast ▸ hdefinition)

/-! ### Lists of pets -/

/-- The schema of a list of pets. -/
def petList : Value :=
  record [("type", .str "array"), ("items", record [("$ref", .str "#/components/schemas/Pet")])]

/-- A description that keeps the schemas of a list of pets and of a pet, which has this type. -/
def petsOfType (type : Text) : Value :=
  record [("components", record [("schemas", record [("Pets", petList),
    ("Pet", record [("type", .str type)])])])]

/-- The only reference of this description is that to the pet. -/
theorem eq_of_isReferred_petsOfType {type : Text} (h : IsReferred (petsOfType type) [] reference) :
    reference = .str "#/components/schemas/Pet" := by
  cases h with
  | parameter hop => cases hop
  | body hop => cases hop
  | component hnamed he hrefers =>
      obtain rfl := Except.ok.inj hnamed
      rcases List.mem_pair.mp he with rfl | rfl
      · cases hrefers with
        | here href => cases href
        | inside hpart hrefers =>
            obtain rfl := List.mem_singleton.mp hpart
            cases hrefers with
            | here href => exact (Option.some.inj href).symm
            | inside hpart _ => cases hpart
      · cases hrefers with
        | here href => cases href
        | inside hpart _ => cases hpart

/-- The pet is referred to as the schema that the description keeps. -/
theorem references_petsOfType (type : Text) :
    ∀ reference, IsReferred (petsOfType type) [] reference → ∃ n component,
      reference = .str (schemaReferenceStart ++ n) ∧
        lookup n [((.str "Pets" : Value), petList), (.str "Pet", record [("type", .str type)])] =
          some component :=
  fun _ h => ⟨"Pet", _, eq_of_isReferred_petsOfType h, rfl⟩

/-- The list of pets mentions the pet. -/
theorem isMentioned_petsOfType (type : Text) : IsMentioned (petsOfType type) []
    [(.str "Pets", petList), (.str "Pet", record [("type", .str type)])] "Pet" :=
  .otherName List.mem_cons_self rfl rfl rfl rfl (List.mem_singleton_self _)

/-- A pet that is an object is declared wherever it is mentioned. -/
theorem mentioned_declared_petsOfType : ∃ view,
    (typesView (petsOfType "object") [] (.usual "out")).result = .ok view ∧
      IsMentioned (petsOfType "object") []
        [(.str "Pets", petList), (.str "Pet", record [("type", .str "object")])] "Pet" ∧
      ∃ d ∈ view.declarations, d.name = .str "Pet" := by
  have hview : (typesView (petsOfType "object") [] (.usual "out")).result = .ok _ := rfl
  obtain ⟨defs, hdefs, -, hclosed⟩ :=
    mentioned_declared_iff rfl (references_petsOfType "object") hview
  obtain rfl := Except.ok.inj hdefs
  refine ⟨_, hview, isMentioned_petsOfType "object", hclosed ?_ _ (isMentioned_petsOfType _)⟩
  intro n hn
  obtain rfl : n = "Pet" :=
    List.append_cancel_left (Value.str.inj (eq_of_isReferred_petsOfType hn))
  exact ⟨by decide, _, List.mem_cons_of_mem _ List.mem_cons_self, rfl⟩

/-- **A name that is mentioned and not declared.** The reference leads to a schema of the
description and the client is made, but a pet that is a text has no declarable shape. -/
theorem exists_mentioned_not_declared : ∃ named view defs files,
    (Api.schemas (petsOfType "string") >>= Value.asEntries) = .ok named ∧
      Api.findOperations (petsOfType "string") = .ok [] ∧
      (∀ reference, IsReferred (petsOfType "string") [] reference → ∃ n component,
        reference = .str (schemaReferenceStart ++ n) ∧ lookup n named = some component) ∧
      (Output.clientFiles (petsOfType "string") (.usual "out")).result = .ok files ∧
      (typesView (petsOfType "string") [] (.usual "out")).result = .ok view ∧
      (definitions (petsOfType "string") []).result = .ok defs ∧
      IsMentioned (petsOfType "string") [] defs "Pet" ∧
      ∀ d ∈ view.declarations, d.name ≠ .str "Pet" := by
  obtain ⟨files, hfiles⟩ := Result.exists_eq_ok_of_isOk
    (x := (Output.clientFiles (petsOfType "string") (.usual "out")).result) (by decide +kernel)
  refine ⟨_, _, _, files, rfl, rfl, references_petsOfType "string", hfiles, rfl, rfl,
    isMentioned_petsOfType "string", ?_⟩
  simp

end ClientScribe.Client
