import ClientScribe.Client.Declaration
import ClientScribe.Client.OperationView
import ClientScribe.Proofs.Client.Registry

/-!
# Declared Bodies

The type of an inline body is made of a name, and the registry has a definition under that name. A
definition is declared only if the part of it that says its shape is no reference and an object, an
array, or without a type but with properties. So naming a body and declaring it are decided by
different questions, and this module says where they agree:

* `exists_mem_declarations_iff`: a name is declared exactly when a definition under it has a
  declarable shape;
* `declared_iff`: the name of an inline body always stands in the registry, and it is declared
  exactly when the definition that combines no schemas, or the second one of those that it combines,
  has a declarable shape.

The two disagree on objects that combine a reference with a schema of no declarable shape
(`exists_inline_not_declared`): their name is used and nothing declares it.
-/

namespace ClientScribe.Client

open Api (Operation)
open Document (Value Entries lookup put record)
open Schema (isInlineObject nameOf qualifiedName)

/-- A schema with a declarable shape: it is no reference, and it is an object or an array or has
properties in the place of a type. -/
def hasDeclarableShape (schema : Value) : Bool :=
  let type := (schema.get? "type").getD .null
  (schema.get? "$ref").isNone &&
    (type.isText "object" || type.isText "array" ||
      type.isNull && (schema.get? "properties").isSome)

/-- The part of a definition that says its shape: the second one of the schemas that it combines, or
the definition itself. -/
def shapePart? (definition : Value) : Option Value :=
  match definition.get? "allOf" with
  | none => some definition
  | some combined => (combined.member 1).toOption

/-- A definition that is declared once its declaration succeeds. -/
def isDeclared (definition : Value) : Bool :=
  (shapePart? definition).any hasDeclarableShape

/-! ### One definition -/

section Definition

variable {name definition body : Value} {parent : Option Text}

/-- The extension that combined schemas express is the second one of them. -/
theorem member_of_inheritanceOf {combined : Value} {inheritance : Schema.Inheritance}
    (h : Schema.inheritanceOf name combined = .ok inheritance) :
    combined.member 1 = .ok inheritance.extension := by
  simp only [Schema.inheritanceOf, ite_eq_iff, Result.bind_eq_ok_iff, reduceCtorEq, and_false,
    exists_false, false_or, Result.pure_def, Except.ok.injEq] at h
  obtain ⟨-, -, -, -, -, -, -, -, -, -, -, -, -, -, extension, hextension, rfl⟩ := h
  exact hextension

/-- What is declared for a definition is its part that says its shape. -/
theorem shapePart?_of_parentAndBody (h : parentAndBody name definition = .ok (parent, body)) :
    shapePart? definition = some body := by
  simp only [parentAndBody, Result.bind_eq_ok_iff] at h
  obtain ⟨combines, hhas, h⟩ := h
  cases combines with
  | true =>
      simp only [if_true, Result.bind_eq_ok_iff, Value.demand_eq_ok_iff, Result.pure_def,
        Except.ok.injEq, Prod.mk.injEq] at h
      obtain ⟨combined, hcombined, inheritance, hinheritance, -, rfl⟩ := h
      simp [shapePart?, hcombined, member_of_inheritanceOf hinheritance, Except.toOption]
  | false =>
      obtain ⟨-, rfl⟩ : none = parent ∧ definition = body := by simpa using h
      have hnone : definition.get? "allOf" = none := by
        cases hget : definition.get? "allOf" with
        | none => rfl
        | some combined =>
            obtain ⟨es, hv⟩ := Value.exists_view_of_get? hget
            simp [Value.has_of_view hv, hget] at hhas
      simp [shapePart?, hnone]

/-- Of schemas that are no reference, those are declarable that have a declarable shape. -/
theorem hasDeclarableShape_of_isDeclarable {declarable : Bool} (hhas : body.has "$ref" = .ok false)
    (h : isDeclarable body = .ok declarable) : hasDeclarableShape body = declarable := by
  simp only [isDeclarable, Result.bind_eq_ok_iff] at h
  obtain ⟨type, htype, h⟩ := h
  obtain ⟨⟨es, hv⟩, rfl⟩ := Value.field_eq_ok_iff.mp htype
  have href : body.get? "$ref" = none := by simpa [Value.has_of_view hv] using hhas
  rw [Value.has_of_view hv] at h
  split at h
  · next hnamed =>
    obtain rfl : true = declarable := by simpa using h
    simp [hasDeclarableShape, href, hnamed]
  · next hnamed =>
    split at h
    · next hnull =>
      obtain rfl : (body.get? "properties").isSome = declarable := by simpa using h
      simp [hasDeclarableShape, href, hnamed, hnull]
    · next hnull =>
      obtain rfl : false = declarable := by simpa using h
      simp [hasDeclarableShape, href, hnamed, hnull]

/-- A text as a description is written without the blanks at its ends, in lines of a comment. -/
theorem describe_str (s start : Text) :
    describe (.str s) start = .ok (continueLines (start ++ indentUnit) (Text.strip s)) := by
  have htext : ((Value.str s).orElse (.str [])).asText = .ok s := by cases s <;> rfl
  rw [describe, htext]
  rfl

/-- **What a definition can come to.** It is a reference and skipped, or it has a declarable shape
and is declared, or it has none and is left out. -/
theorem declaration_cases {declared : Option Declaration}
    (h : (declaration name definition).result = .ok declared) :
    ∃ parent part, parentAndBody name definition = .ok (parent, part) ∧
      ((∃ target, part.get? "$ref" = some target ∧ declared = none ∧
          (declaration name definition).notices = [.skippedReference target]) ∨
        (∃ description described shape, hasDeclarableShape part = true ∧
          part.field "description" = .ok description ∧
          describe description commentLine = .ok described ∧ shapeOf part = .ok shape ∧
          declared = some ⟨name, parent, described, shape⟩ ∧
          (declaration name definition).notices = []) ∨
        (part.get? "$ref" = none ∧ hasDeclarableShape part = false ∧ declared = none ∧
          (declaration name definition).notices =
            [.notDeclarable name ((part.get? "type").getD .null)])) := by
  simp only [declaration, Logged.result_bind, Logged.result_liftM, Result.bind_eq_ok_iff] at h
  obtain ⟨⟨parent, part⟩, hbody, isReference, hhas, h⟩ := h
  refine ⟨parent, part, hbody, ?_⟩
  rw [declaration, hbody]
  simp only [Logged.liftM_ok_bind, hhas]
  cases isReference with
  | true =>
      simp only [if_true, Logged.result_bind, Logged.result_liftM, Logged.result_note,
        Logged.result_pure, Result.bind_eq_ok_iff, Except.ok.injEq] at h
      obtain ⟨target, htarget, -, -, rfl⟩ := h
      simp only [if_true, htarget, Logged.liftM_ok_bind, Logged.notices_note_bind]
      exact .inl ⟨target, Value.demand_eq_ok_iff.mp htarget, trivial, rfl⟩
  | false =>
      simp only [Bool.false_eq_true, if_false, Logged.result_bind, Logged.result_liftM,
        Result.bind_eq_ok_iff] at h
      obtain ⟨declarable, hdeclarable, h⟩ := h
      have hshape := hasDeclarableShape_of_isDeclarable hhas hdeclarable
      simp only [Bool.false_eq_true, if_false, hdeclarable, Logged.liftM_ok_bind]
      cases declarable with
      | true =>
          simp only [if_true, Logged.result_bind, Logged.result_liftM, Logged.result_pure,
            Result.bind_eq_ok_iff, Except.ok.injEq] at h
          obtain ⟨description, hdescription, described, hdescribed, shape, hshapeOf, rfl⟩ := h
          simp only [if_true, hdescription, hdescribed, hshapeOf, Logged.liftM_ok_bind]
          exact .inr (.inl ⟨_, _, _, hshape, rfl, hdescribed, rfl, rfl, rfl⟩)
      | false =>
          simp only [Bool.false_eq_true, if_false, Logged.result_bind, Logged.result_liftM,
            Logged.result_note, Logged.result_pure, Result.bind_eq_ok_iff, Except.ok.injEq] at h
          obtain ⟨type, htype, -, -, rfl⟩ := h
          obtain ⟨⟨es, hv⟩, rfl⟩ := Value.field_eq_ok_iff.mp htype
          have href : part.get? "$ref" = none := by simpa [Value.has_of_view hv] using hhas
          simp only [Bool.false_eq_true, if_false, htype, Logged.liftM_ok_bind,
            Logged.notices_note_bind]
          exact .inr (.inr ⟨href, hshape, trivial, rfl⟩)

/-- A definition is declared under its name if the part that says its shape has a declarable one,
and left out otherwise. -/
theorem name_of_result_declaration {declared : Option Declaration}
    (h : (declaration name definition).result = .ok declared) :
    declared.map Declaration.name = if isDeclared definition then some name else none := by
  obtain ⟨parent, part, hbody, hcases⟩ := declaration_cases h
  have hdeclared : isDeclared definition = hasDeclarableShape part := by
    simp [isDeclared, shapePart?_of_parentAndBody hbody]
  rw [hdeclared]
  obtain ⟨target, href, rfl, -⟩ | ⟨_, _, _, hshape, -, -, -, rfl, -⟩ | ⟨-, hshape, rfl, -⟩ := hcases
  · simp [hasDeclarableShape, href]
  · simp [hshape]
  · simp [hshape]

/-- What is declared for a definition, where it is declared. -/
theorem parentAndBody_of_result_declaration {d : Declaration}
    (h : (declaration name definition).result = .ok (some d)) :
    ∃ part description, parentAndBody name definition = .ok (d.parent, part) ∧
      part.field "description" = .ok description ∧
      describe description commentLine = .ok d.description ∧ shapeOf part = .ok d.shape := by
  obtain ⟨parent, part, hbody, hcases⟩ := declaration_cases h
  obtain ⟨_, -, hnone, -⟩ | ⟨_, _, _, -, hdescription, hdescribed, hshape, hsome, -⟩ |
    ⟨-, -, hnone, -⟩ := hcases
  · cases hnone
  · obtain rfl := Option.some.inj hsome
    exact ⟨part, _, hbody, hdescription, hdescribed, hshape⟩
  · cases hnone

end Definition

/-! ### All definitions -/

/-- **The declared names.** A name is declared exactly when a definition under it has a declarable
shape. -/
theorem exists_mem_declarations_iff {defs : Entries} {declared : List Declaration}
    (h : (declarations defs).result = .ok declared) (name : Value) :
    (∃ d ∈ declared, d.name = name) ↔
      ∃ definition, (name, definition) ∈ defs ∧ isDeclared definition = true := by
  simp only [declarations, Logged.result_bind, Logged.result_mapM, Logged.result_pure,
    Result.bind_eq_ok_iff, Except.ok.injEq] at h
  obtain ⟨all, hall, rfl⟩ := h
  constructor
  · rintro ⟨d, hd, rfl⟩
    obtain ⟨⟨key, definition⟩, hmem, hdecl⟩ :=
      Result.exists_of_mem_mapM hall (by simpa using hd)
    have hname := name_of_result_declaration hdecl
    split at hname
    · next hdeclared =>
      obtain rfl : d.name = key := by simpa using hname
      exact ⟨definition, hmem, hdeclared⟩
    · cases hname
  · rintro ⟨definition, hmem, hdeclared⟩
    obtain ⟨declaration?, hmem', hdecl⟩ := Result.exists_of_mem_of_mapM hall hmem
    have hname := name_of_result_declaration hdecl
    rw [if_pos hdeclared, Option.map_eq_some_iff] at hname
    obtain ⟨d, rfl, hd⟩ := hname
    exact ⟨d, by simpa using hmem', hd⟩

/-! ### The definitions of bodies -/

/-- A definition that a body brings along is declared unless it combines schemas and the second one
of them has no declarable shape. -/
theorem isDeclared_iff_of_ownDefinition? {schema own : Value}
    (h : ownDefinition? schema = some own) : isDeclared own = true ↔
      ∀ combined, own.get? "allOf" = some combined →
        ∃ extension, combined.member 1 = .ok extension ∧ hasDeclarableShape extension = true := by
  obtain ⟨href, hshape⟩ := get?_of_ownDefinition? h
  cases hallOf : own.get? "allOf" with
  | none =>
      -- what combines nothing says its shape itself
      have hown : hasDeclarableShape own = true := by
        obtain hobject | ⟨hnull, hproperties⟩ := hshape
        · simp [hasDeclarableShape, href, hobject]
        · have hsome : (own.get? "properties").isSome = true := by simpa [hallOf] using hproperties
          simp [hasDeclarableShape, href, hnull, hsome]
      simp [isDeclared, shapePart?, hallOf, hown]
  | some combined =>
      cases hmember : combined.member 1 <;>
        simp [isDeclared, shapePart?, hallOf, hmember, Except.toOption]

/-- **Which bodies are declared.** The type of an inline body, in a return type and in a signature,
is made of a name that the registry has a definition for. The name is declared exactly when a
definition under it has a declarable shape; where bodies have names of their own, exactly when the
definition of the body combines no schemas or the second one of them has a declarable shape. -/
theorem declared_iff {document : Value} {op : Operation} {ops : List Operation} {options : Options}
    {view : TypesView} (h : (typesView document ops options).result = .ok view) (hop : op ∈ ops) :
    ∃ b defs, bodies document op = .ok b ∧ (definitions document ops).result = .ok defs ∧
      returnTypeOf op = bodyType b.response.schema b.response.name ∧
      bodyArgument document op true =
        ((bodyType b.request.schema b.request.name >>= Value.text) >>= fun type =>
          .ok ⟨"body", false, some type⟩) ∧
      ∀ c ∈ b.toList, ∀ own, ownDefinition? c.schema = some own → IsUnwrapped c.schema →
        bodyType c.schema c.name =
            .ok (.str (qualifiedName c.name true ++ ownBrackets c.schema)) ∧
          (lookup c.name defs).isSome = true ∧
          ((∃ d ∈ view.declarations, d.name = .str c.name) ↔
            ∃ definition, (.str c.name, definition) ∈ defs ∧ isDeclared definition = true) ∧
          ∀ named, (Api.schemas document >>= Value.asEntries) = .ok named →
            HaveOwnNames document named ops →
            ((∃ d ∈ view.declarations, d.name = .str c.name) ↔
              ∀ combined, own.get? "allOf" = some combined → ∃ extension,
                combined.member 1 = .ok extension ∧ hasDeclarableShape extension = true) := by
  simp only [typesView, Logged.result_bind, Logged.result_pure, Result.bind_eq_ok_iff,
    Except.ok.injEq] at h
  obtain ⟨defs, hdefs, declared, hdeclared, rfl⟩ := h
  obtain ⟨named, hnamed, hfold⟩ := result_definitions_eq_ok_iff.mp hdefs
  obtain ⟨b, hb⟩ := exists_bodies_of_foldlM_addBodies hfold hop
  refine ⟨b, defs, hb, hdefs, returnTypeOf_of_bodies hb, bodyArgument_of_bodies hb, ?_⟩
  intro c hc own hown hplain
  have hinline : (ownDefinition? c.schema).isSome = true := by simp [hown]
  have hiff := exists_mem_declarations_iff hdeclared (.str c.name)
  refine ⟨bodyType_of_ownDefinition? hinline hplain c.name,
    lookup_name_isSome_of_foldlM_addBodies hfold hop hb hc hinline hplain, hiff, ?_⟩
  intro named' hnamed' hownNames
  obtain rfl : named = named' := Except.ok.inj (hnamed.symm.trans hnamed')
  rw [hiff, ← isDeclared_iff_of_ownDefinition? hown]
  simp [hownNames.mem_iff hfold hop hb hc hown]

/-- The response of the search for pets is an array of objects, and they are declared. -/
theorem search_response_declared : ∃ view,
    (typesView petDocument petOperations (.usual "out")).result = .ok view ∧
      HaveOwnNames petDocument [(.str "Pet", namedObject)] petOperations ∧
      ∃ d ∈ view.declarations, d.name = .str "search_response" := by
  have hview : (typesView petDocument petOperations (.usual "out")).result = .ok _ := rfl
  refine ⟨_, hview, haveOwnNames_petOperations, ?_⟩
  obtain ⟨b, defs, hb, -, -, -, hbodies⟩ := declared_iff hview List.mem_cons_self
  obtain rfl := Except.ok.inj hb
  obtain ⟨-, -, -, hdeclared⟩ :=
    hbodies _ (List.mem_cons_of_mem _ List.mem_cons_self) _ rfl (by decide)
  exact (hdeclared _ rfl haveOwnNames_petOperations).mpr fun combined hcombined => by
    cases hcombined

/-- A description with an operation that is sent a pet with a mark of what it must have. -/
def markedDocument : Value :=
  record [
    ("paths", record [("/pets", record [("post", record [
      ("operationId", .str "createPet"),
      ("requestBody", record [("content", jsonContent (record [("allOf", .list [
        record [("$ref", .str "#/components/schemas/Pet")],
        record [("required", .list [.str "id"])]])]))]),
      ("responses", record [])])])]),
    ("components", record [("schemas", record [("Pet", record [("type", .str "object"),
      ("properties", record [("id", record [("type", .str "integer")])])])])])]

/-- **An inline body that is not declared.** The request is an inline object and its type in the
signature is named after it, but what it adds to the pet has no declarable shape, so no declaration
has that name. -/
theorem exists_inline_not_declared : ∃ ops op b written view,
    Api.findOperations markedDocument = .ok ops ∧ op ∈ ops ∧
      bodies markedDocument op = .ok b ∧ isInlineObject b.request.schema = true ∧
      operationView markedDocument op (.usual "out") = .ok written ∧
      written.signature = "body: api.createPet_request" ∧
      (typesView markedDocument ops (.usual "out")).result = .ok view ∧
      ∀ d ∈ view.declarations, d.name ≠ .str "createPet_request" := by
  refine ⟨_, _, _, _, _, rfl, List.mem_cons_self, rfl, rfl, rfl, rfl, rfl, ?_⟩
  simp

end ClientScribe.Client
