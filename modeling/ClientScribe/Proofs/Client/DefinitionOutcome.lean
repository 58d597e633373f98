import ClientScribe.Proofs.Client.InterfaceMembers
import ClientScribe.Proofs.Schema.Refusal

/-!
# What Becomes of a Definition

No definition is lost without a word. `Outcome` says what can become of one: a declaration under its
name, the notice that it is only a reference, or the notice that it has no shape to declare, and
never two of them. The file of types holds the declarations of all outcomes in the order of the
registry, and their notices follow those that were given while the registry was made
(`definitions_accounted_for`).

A definition can also end the run. `Rejected` says why one does whose fields hold the kinds of
values that they are for (`IsTyped`): it combines schemas and not a reference with one other, or one
of the schemas in it has no type.
-/

namespace ClientScribe

namespace Client

open Api (Operation)
open Document (Value Entries KeysApart HaveTextKeys nestingLimit record)
open Document.Value (IsUnwritable)
open Result (Ends)
open Schema (HasFieldTypes Inside IsNestedTo docTypeText listedField typeField typeText)

variable {document name definition part : Value} {ops : List Operation} {options : Options}
  {n : Text}

/-! ### Outcomes -/

/-- What becomes of a definition: what is declared for it, and which notices are given. -/
inductive Outcome (name definition : Value) : Option Declaration × List Notice → Prop
  | declared {d : Declaration} (hname : d.name = name) (hdeclared : isDeclared definition = true) :
      Outcome name definition (some d, [])
  | reference {part target : Value} (hpart : shapePart? definition = some part)
      (href : part.get? "$ref" = some target) :
      Outcome name definition (none, [.skippedReference target])
  | notDeclarable {part : Value} (hpart : shapePart? definition = some part)
      (href : part.get? "$ref" = none) (hshape : hasDeclarableShape part = false) :
      Outcome name definition (none, [.notDeclarable name (typeField part)])

/-- **What becomes of one definition.** -/
theorem outcome_of_declaration {declared : Option Declaration}
    (h : (declaration name definition).result = .ok declared) :
    Outcome name definition (declared, (declaration name definition).notices) := by
  obtain ⟨parent, part, hbody, hcases⟩ := declaration_cases h
  have hpart : shapePart? definition = some part := shapePart?_of_parentAndBody hbody
  obtain ⟨target, href, rfl, hnotices⟩ | ⟨_, _, _, hshape, -, -, -, rfl, hnotices⟩ |
    ⟨href, hshape, rfl, hnotices⟩ := hcases
  · exact hnotices ▸ .reference hpart href
  · exact hnotices ▸ .declared rfl (by simpa [isDeclared, hpart] using hshape)
  · exact hnotices ▸ .notDeclarable hpart href hshape

/-- What becomes of definitions one after the other. -/
theorem exists_outcomes_of_declarations {defs : Entries} {declared : List Declaration}
    (h : (declarations defs).result = .ok declared) :
    ∃ outcomes, List.Forall₂ (fun e outcome => Outcome e.1 e.2 outcome) defs outcomes ∧
      declared = outcomes.filterMap Prod.fst ∧
      (declarations defs).notices = outcomes.flatMap Prod.snd := by
  simp only [declarations, Logged.result_bind, Logged.result_pure, Result.bind_eq_ok_iff,
    Except.ok.injEq] at h
  obtain ⟨all, hall, rfl⟩ := h
  obtain ⟨outcomes, houtcomes, rfl, hnotices⟩ := Logged.exists_parts_of_mapM hall
  refine ⟨outcomes, houtcomes.imp fun e outcome heq => ?_, ?_, ?_⟩
  · have hresult : (declaration e.1 e.2).result = .ok outcome.1 := by rw [heq]
    have houtcome := outcome_of_declaration hresult
    rwa [heq] at houtcome
  · rw [List.filterMap_map]
    rfl
  · rw [declarations, Logged.notices_bind hall, hnotices]
    simp [pure, Logged.ofResult]

/-! ### Rejected definitions -/

/-- The schemas that a schema combines. -/
def combinedSchemas (schema : Value) : List Value :=
  match ((schema.get? "allOf").getD .null).view with
  | .list vs => vs
  | _ => []

/-- The schemas that stand in a schema, none of them further in. -/
def parts (schema : Value) : List Value :=
  ["schema", "items", "additionalProperties"].filterMap
      (fun k : String => schema.get? (Text.ofString k)) ++
    (properties schema).map Prod.snd ++ combinedSchemas schema

/-- A schema is a definition itself or stands somewhere in it. -/
inductive IsPartOf (node : Value) : Value → Prop
  | self : IsPartOf node node
  | within {schema part : Value} (hpart : part ∈ parts schema) (h : IsPartOf node part) :
      IsPartOf node schema

/-- The fields of a definition, and of all schemas in it, hold the kinds of values that they are
for. -/
structure IsTyped (definition : Value) : Prop where
  isMap : definition.isMap = true
  fields : ∀ node, IsPartOf node definition → HasFieldTypes node

/-- Why a definition ends the run, whose name is written `n`. -/
inductive Rejected (n : Text) (definition : Value) : Error → Prop
  | notPair {combined : Value} {vs : List Value}
      (hcombined : definition.get? "allOf" = some combined) (hview : combined.view = .list vs)
      (hlength : vs.length ≠ 2) : Rejected n definition (.inheritanceNotPair n)
  | withoutParent {combined first second : Value}
      (hcombined : definition.get? "allOf" = some combined)
      (hview : combined.view = .list [first, second]) (href : first.get? "$ref" = none) :
      Rejected n definition (.inheritanceWithoutParent n)
  | arrayWithoutItems {node : Value} (hnode : IsPartOf node definition)
      (htype : typeField node = .str "array")
      (hitems : ((node.get? "items").getD .null).isMap = false) :
      Rejected n definition .arrayWithoutItems
  | unwritable {node v : Value} {vs : List Value} (hnode : IsPartOf node definition)
      (hlisted : (listedField node).view = .list vs) (hv : v ∈ vs)
      (h : IsUnwritable nestingLimit v) : Rejected n definition .misfit
  | tooDeep {node : Value} (hnode : IsPartOf node definition) (h : IsNestedTo nestingLimit node) :
      Rejected n definition .misfit

variable {node schema : Value}

/-- A schema under one of the three fields for a single schema is a part. -/
theorem mem_parts_of_get? {k : String} (hk : k ∈ ["schema", "items", "additionalProperties"])
    (hpart : schema.get? (Text.ofString k) = some part) : part ∈ parts schema :=
  List.mem_append_left _ (List.mem_append_left _ (List.mem_filterMap.mpr ⟨k, hk, hpart⟩))

/-- The schemas of properties are parts. -/
theorem mem_parts_of_mem_properties {e : Value × Value} (he : e ∈ properties schema) :
    e.2 ∈ parts schema :=
  List.mem_append_left _ (List.mem_append_right _ (List.mem_map_of_mem he))

/-- The schemas that a schema combines are parts of it. -/
theorem mem_parts_of_combined {combined : Value} {vs : List Value}
    (hcombined : schema.get? "allOf" = some combined) (hview : combined.view = .list vs)
    (hpart : part ∈ vs) : part ∈ parts schema := by
  refine List.mem_append_right _ ?_
  rw [combinedSchemas, hcombined, Option.getD_some, hview]
  exact hpart

/-- A schema that types lead to is in the definition. -/
theorem IsPartOf.of_inside (h : Inside node schema) : IsPartOf node schema := by
  induction h with
  | self => exact .self
  | within hk hpart _ ih => exact .within (mem_parts_of_get? hk hpart) ih

/-- What is in a schema of a definition is in the definition. -/
theorem IsPartOf.trans (h : IsPartOf node part) (h' : IsPartOf part definition) :
    IsPartOf node definition := by
  induction h' with
  | self => exact h
  | within hpart _ ih => exact .within hpart ih

/-- What holds of a schema and of all those in its parts holds of all those in it. -/
theorem forall_isPartOf {P : Value → Prop} (hself : P schema)
    (h : ∀ part ∈ parts schema, ∀ node, IsPartOf node part → P node) :
    ∀ node, IsPartOf node schema → P node := by
  rintro node (_ | ⟨hpart, hnode⟩)
  · exact hself
  · exact h _ hpart node hnode

/-- What leaves a schema in a definition without a type rejects the definition. -/
theorem Rejected.of_refused {e : Error} (hpart : IsPartOf part definition)
    (h : Schema.Refused nestingLimit part e) : Rejected n definition e := by
  cases h with
  | arrayWithoutItems hnode htype hitems =>
      exact .arrayWithoutItems ((IsPartOf.of_inside hnode).trans hpart) htype hitems
  | unwritable hnode hlisted hv h =>
      exact .unwritable ((IsPartOf.of_inside hnode).trans hpart) hlisted hv h
  | tooDeep h => exact .tooDeep hpart h

/-- A mapping can be asked whether it can be declared. -/
theorem exists_isDeclarable_eq_ok (hmap : part.isMap = true) :
    ∃ declarable, isDeclarable part = .ok declarable := by
  obtain ⟨es, hv⟩ := Value.isMap_iff.mp hmap
  rw [isDeclarable, Value.field_of_view hv, Result.ok_bind, Value.has_of_view hv]
  split
  · exact ⟨_, rfl⟩
  split
  · exact ⟨_, rfl⟩
  · exact ⟨_, rfl⟩

/-- A typed schema says which names are required. -/
theorem exists_requires (h : HasFieldTypes part) : ∃ names, Requires part names := by
  cases hget : part.get? "required" with
  | none => exact ⟨[], .nothing (by rw [hget]; rfl)⟩
  | some v =>
      have hlist := h.required
      rw [hget] at hlist
      obtain ⟨_, hview, htexts⟩ := Value.isListOf_iff.mp hlist
      obtain ⟨names, rfl⟩ := Value.exists_eq_map_str htexts
      exact ⟨names, .listed hget hview⟩

/-- The properties of a schema are mappings, one for each key. -/
theorem exists_entries_eq_ok (h : HasFieldTypes part) : ∃ es,
    (((part.get? "properties").getD .null).orElse (.map [])).entries = .ok es ∧
      ∀ e ∈ es, e.2.isMap = true := by
  cases hget : part.get? "properties" with
  | none => exact ⟨[], rfl, nofun⟩
  | some v =>
      have hmapOf := h.properties
      rw [hget] at hmapOf
      obtain ⟨es, hview, hmaps⟩ := Value.isMapOf_iff.mp hmapOf
      rw [Option.getD_some, Value.orElse]
      split
      · exact ⟨es, Value.entries_eq_ok_iff.mpr hview, hmaps⟩
      · exact ⟨[], rfl, nofun⟩

section Typed

variable (htyped : IsTyped definition)
include htyped

/-- A schema in a definition has both types unless the definition is rejected. -/
theorem ends_typeTexts (hpart : IsPartOf part definition) (hmap : part.isMap = true) :
    Ends (fun _ => True) (Rejected n definition) (typeText part false) ∧
      Ends (fun _ => True) (Rejected n definition) (docTypeText part) := by
  have hfields (node) (hnode : Inside node part) : HasFieldTypes node :=
    htyped.fields node ((IsPartOf.of_inside hnode).trans hpart)
  exact ⟨(Schema.ends_typeText hmap hfields false).mono (fun _ h => h) fun _ => .of_refused hpart,
    (Schema.ends_docTypeText hmap hfields).mono (fun _ h => h) fun _ => .of_refused hpart⟩

/-- The description of a schema can be written. -/
theorem exists_describe_eq_ok (hpart : IsPartOf part definition) (start : Text) :
    ∃ s, describe ((part.get? "description").getD .null) start = .ok s := by
  cases hget : part.get? "description" with
  | none => exact ⟨_, rfl⟩
  | some description =>
      obtain ⟨s, rfl⟩ :=
        (htyped.fields part hpart).exists_text (k := "description") (by decide) hget
      exact ⟨_, describe_str s start⟩

/-- A member is made of a property unless the definition is rejected. -/
theorem ends_member {property : Value} (hproperty : IsPartOf property definition)
    (hmap : property.isMap = true) (name : Value) (optional : Bool) :
    Ends (fun _ => True) (Rejected n definition) (member name property optional) := by
  obtain ⟨es, hv⟩ := Value.isMap_iff.mp hmap
  obtain ⟨htype, hdocType⟩ := ends_typeTexts (n := n) htyped hproperty hmap
  obtain ⟨_, hdescribed⟩ := exists_describe_eq_ok htyped hproperty memberCommentLine
  obtain ⟨_, hdocDescribed⟩ := exists_describe_eq_ok htyped hproperty commentLine
  refine htype.bind fun type _ => hdocType.bind fun docType _ => ?_
  simp only [Value.field_of_view hv, Result.ok_bind, hdescribed, hdocDescribed]
  exact .ok trivial

/-- The names that are required are texts, and the properties are mappings. -/
theorem ends_members (hpart : IsPartOf part definition) (hmap : part.isMap = true) :
    Ends (fun _ => True) (Rejected n definition) (members part) := by
  obtain ⟨fields, hv⟩ := Value.isMap_iff.mp hmap
  have hfields : HasFieldTypes part := htyped.fields part hpart
  obtain ⟨names, hrequired⟩ := exists_requires hfields
  obtain ⟨es, hes, hmaps⟩ := exists_entries_eq_ok hfields
  obtain rfl := eq_properties rfl hes
  simp only [members, hrequired.requiredNames_eq hmap, Value.field_of_view hv, Result.ok_bind, hes,
    requiredFirst_map_str]
  refine Ends.mapM fun e he => ?_
  have hmem : e ∈ properties part := (row_perm _ _).mem_iff.mp he
  have hproperty : IsPartOf e.2 part := .within (mem_parts_of_mem_properties hmem) .self
  exact ends_member htyped (hproperty.trans hpart) (hmaps e hmem) _ _

/-- A schema in a definition has a shape unless the definition is rejected. -/
theorem ends_shapeOf (hpart : IsPartOf part definition) (hmap : part.isMap = true) :
    Ends (fun _ => True) (Rejected n definition) (shapeOf part) := by
  obtain ⟨es, hv⟩ := Value.isMap_iff.mp hmap
  rw [shapeOf, Value.field_of_view hv, Result.ok_bind]
  split
  · obtain ⟨htype, hdocType⟩ := ends_typeTexts (n := n) htyped hpart hmap
    exact htype.bind fun _ _ => hdocType.bind fun _ _ => .ok trivial
  · exact (ends_members htyped hpart hmap).bind fun _ _ => .ok trivial

/-- What a definition combines is a reference and one other schema, or the definition is
rejected. -/
theorem ends_inheritanceOf {combined : Value} (hname : name.text = .ok n)
    (hcombined : definition.get? "allOf" = some combined) :
    Ends (fun inheritance => IsPartOf inheritance.extension definition ∧
        inheritance.extension.isMap = true) (Rejected n definition)
      (Schema.inheritanceOf name combined) := by
  have hlist := (htyped.fields definition .self).combined
  rw [hcombined] at hlist
  obtain ⟨vs, hview, hmaps⟩ := Value.isListOf_iff.mp hlist
  have hmembers : combined.members = .ok vs := by rw [Value.members, hview]
  by_cases hlength : vs.length = 2
  · obtain ⟨first, second, rfl⟩ := List.length_eq_two.mp hlength
    obtain ⟨es, hv⟩ := Value.isMap_iff.mp (hmaps first (by simp))
    have htrue : combined.isTrue = true := by
      cases combined <;> simp_all [Value.view, Value.isTrue]
    have hfirst : combined.member 0 = .ok first := by rw [Value.member, hview]; rfl
    have hsecond : combined.member 1 = .ok second := by rw [Value.member, hview]; rfl
    have hpartOf {w : Value} (hw : w ∈ [first, second]) : IsPartOf w definition :=
      .within (mem_parts_of_combined hcombined hview hw) .self
    simp only [Schema.inheritanceOf, htrue, Value.count, hmembers, hfirst, hsecond,
      hmaps first (by simp), Value.has_of_view hv, Result.ok_bind, hname]
    cases href : first.get? "$ref" with
    | none => exact .error (.withoutParent hcombined hview href)
    | some target =>
        obtain ⟨s, rfl⟩ :=
          (htyped.fields first (hpartOf (by simp))).exists_text (k := "$ref") (by decide) href
        have hdemand : first.demand "$ref" = .ok (.str s) := Value.demand_eq_ok_iff.mpr href
        have hparent : Api.referenceName (.str s) = .ok (Api.lastSegment s) := rfl
        simp only [Result.ok_bind, hdemand, hparent]
        exact .ok ⟨hpartOf (by simp), hmaps second (by simp)⟩
  · have hcount : combined.count = .ok vs.length := by rw [Value.count, hmembers]; rfl
    have hrejected : Rejected n definition (.inheritanceNotPair n) :=
      .notPair hcombined hview hlength
    rw [Schema.inheritanceOf, hname]
    split
    · exact .error hrejected
    · rw [hcount, Result.ok_bind, if_pos (by simpa using hlength)]
      exact .error hrejected

/-- A definition is read with its parent, if it has one, unless it is rejected. -/
theorem ends_parentAndBody (hname : name.text = .ok n) :
    Ends (fun body => IsPartOf body.2 definition ∧ body.2.isMap = true) (Rejected n definition)
      (parentAndBody name definition) := by
  obtain ⟨es, hv⟩ := Value.isMap_iff.mp htyped.isMap
  rw [parentAndBody, Value.has_of_view hv, Result.ok_bind]
  cases hcombined : definition.get? "allOf" with
  | none => exact .ok ⟨.self, htyped.isMap⟩
  | some combined =>
      have hdemand : definition.demand "allOf" = .ok combined :=
        Value.demand_eq_ok_iff.mpr hcombined
      simp only [Option.isSome_some, if_true, hdemand, Result.ok_bind]
      exact (ends_inheritanceOf htyped hname hcombined).bind fun _ h => .ok h

/-- **Why a typed definition ends the run.** It combines schemas, and not a reference with one
other, or one of its schemas has no type. -/
theorem ends_declaration (hname : name.text = .ok n) :
    Ends (fun _ => True) (Rejected n definition) (declaration name definition).result := by
  simp only [declaration, Logged.result_bind, Logged.result_liftM]
  refine (ends_parentAndBody htyped hname).bind fun body hbody => ?_
  obtain ⟨hpart, hmap⟩ := hbody
  obtain ⟨es, hv⟩ := Value.isMap_iff.mp hmap
  obtain ⟨described, hdescribed⟩ := exists_describe_eq_ok htyped hpart commentLine
  rw [Value.has_of_view hv, Result.ok_bind]
  cases href : body.2.get? "$ref" with
  | some target =>
      have hdemand : body.2.demand "$ref" = .ok target := Value.demand_eq_ok_iff.mpr href
      simp only [Option.isSome_some, if_true, Logged.result_bind, Logged.result_liftM, hdemand]
      exact .ok trivial
  | none =>
      obtain ⟨declarable, hdeclarable⟩ := exists_isDeclarable_eq_ok hmap
      simp only [Option.isSome_none, Bool.false_eq_true, if_false, Logged.result_bind,
        Logged.result_liftM, hdeclarable, Result.ok_bind]
      cases declarable with
      | true =>
          simp only [if_true, Logged.result_bind, Logged.result_liftM, Value.field_of_view hv,
            Result.ok_bind, hdescribed]
          exact (ends_shapeOf htyped hpart hmap).bind fun _ _ => .ok trivial
      | false =>
          simp only [Bool.false_eq_true, if_false, Logged.result_bind, Logged.result_liftM,
            Value.field_of_view hv]
          exact .ok trivial

end Typed

/-! ### All definitions -/

/-- **No definition is lost.** Every definition of the registry has one outcome, in the order of the
registry; the declarations are those of the outcomes, and so are the notices that come after those
given while the registry was made. So the names of the declarations are in the order of the
registry, and no two are the same. A definition whose fields hold the kinds of values that they are
for ends the run only if it is rejected. -/
theorem definitions_accounted_for {named : Entries} {view : TypesView}
    (hschemas : (Api.schemas document >>= Value.asEntries) = .ok named) (hkeys : KeysApart named)
    (h : (typesView document ops options).result = .ok view) :
    (∃ defs outcomes, (definitions document ops).result = .ok defs ∧
      List.Forall₂ (fun e outcome => Outcome e.1 e.2 outcome) defs outcomes ∧
      view.declarations = outcomes.filterMap Prod.fst ∧
      (typesView document ops options).notices =
        (definitions document ops).notices ++ outcomes.flatMap Prod.snd ∧
      (view.declarations.map Declaration.name).Sublist (defs.map Prod.fst) ∧
      (view.declarations.map Declaration.name).Pairwise fun a b => a.same b = false) ∧
    ∀ name n definition, name.text = .ok n → IsTyped definition → ∀ e,
      (declaration name definition).result = .error e → Rejected n definition e := by
  refine ⟨?_, fun _ _ _ hname htyped _ herror =>
    (ends_declaration htyped hname).of_eq_error herror⟩
  obtain ⟨hapart, -⟩ := names_of_typesView hschemas hkeys h
  simp only [typesView, Logged.result_bind, Logged.result_pure, Result.bind_eq_ok_iff,
    Except.ok.injEq] at h
  obtain ⟨defs, hdefs, declared, hdeclared, rfl⟩ := h
  obtain ⟨outcomes, houtcomes, hdeclarations, hnotices⟩ :=
    exists_outcomes_of_declarations hdeclared
  refine ⟨defs, outcomes, hdefs, houtcomes, hdeclarations, ?_, ?_, hapart⟩
  · rw [typesView, Logged.notices_bind hdefs, Logged.notices_bind hdeclared, hnotices]
    simp [pure, Logged.ofResult]
  · rw [map_name_of_declarations hdeclared]
    exact List.filter_sublist.map Prod.fst

/-- Pets, what refers to them, what extends them, and what is none. -/
def animalSchemas : Entries :=
  [(.str "Pet", namedObject), (.str "Animal", record [("$ref", .str "#/components/schemas/Pet")]),
    (.str "Dog", dogDefinition), (.str "Colour", record [("type", .str "string")])]

/-- A description of them. -/
def animalDocument : Value := record [("components", record [("schemas", .map animalSchemas)])]

/-- A definition that combines one schema alone. -/
def loneExtension : Value := record [("allOf", .list [record [("type", .str "object")]])]

/-- A definition that combines one schema is typed. -/
theorem isTyped_loneExtension : IsTyped loneExtension where
  isMap := rfl
  fields := by
    refine forall_isPartOf ⟨by decide, rfl, rfl, rfl, rfl, rfl⟩ ?_
    rw [show parts loneExtension = [record [("type", .str "object")]] from rfl,
      List.forall_mem_singleton]
    exact forall_isPartOf ⟨by decide, rfl, rfl, rfl, rfl, rfl⟩ nofun

/-- Of four definitions two are declared and two are accounted for by a notice. -/
theorem definitions_accounted_for_animals : ∃ named view,
    (Api.schemas animalDocument >>= Value.asEntries) = .ok named ∧ KeysApart named ∧
      (typesView animalDocument [] (.usual "out")).result = .ok view ∧
      (view.declarations.map Declaration.name).Sublist
        [.str "Pet", .str "Animal", .str "Dog", .str "Colour"] ∧
      (typesView animalDocument [] (.usual "out")).notices =
        [.skippedReference (.str "#/components/schemas/Pet"),
          .notDeclarable (.str "Colour") (.str "string")] ∧
      IsTyped loneExtension ∧
      ∃ e, (declaration (.str "Dog") loneExtension).result = .error e ∧
        Rejected "Dog" loneExtension e := by
  have hschemas : (Api.schemas animalDocument >>= Value.asEntries) = .ok animalSchemas := rfl
  have hview : (typesView animalDocument [] (.usual "out")).result = .ok _ := rfl
  have herror : (declaration (.str "Dog") loneExtension).result = .error _ := rfl
  obtain ⟨⟨defs, outcomes, hdefs, -, -, -, hnames, -⟩, hrejected⟩ :=
    definitions_accounted_for hschemas (by decide) hview
  obtain rfl : animalSchemas = defs := Except.ok.inj hdefs
  exact ⟨_, _, hschemas, by decide, hview, hnames, rfl, isTyped_loneExtension, _, herror,
    hrejected _ _ _ rfl isTyped_loneExtension _ herror⟩

/-- Numbers, one of them with a digit more than can be written. -/
def wideNumbers : Value := record [("enum", .list [.int (Nat.pow 10 Document.mostDigits)])]

/-- A list of such numbers. -/
def wideNumberList : Value := record [("type", .str "array"), ("items", wideNumbers)]

/-- A list of lists of lists, without an end. -/
def endlessList : Value :=
  .looped [(0, record [("type", .str "array"), ("items", .link 0)])] 0

/-- A list of numbers is typed, however many digits they have. -/
theorem isTyped_wideNumberList : IsTyped wideNumberList where
  isMap := rfl
  fields := by
    refine forall_isPartOf ⟨by decide, rfl, rfl, rfl, rfl, rfl⟩ ?_
    rw [show parts wideNumberList = [wideNumbers] from rfl, List.forall_mem_singleton]
    exact forall_isPartOf ⟨by decide, rfl, rfl, rfl, rfl, rfl⟩ nofun

/-- A list that leads back to itself is typed. -/
theorem isTyped_endlessList : IsTyped endlessList where
  isMap := rfl
  fields := by
    have hself (node schema) (hnode : IsPartOf node schema) (hschema : schema = endlessList) :
        node = endlessList := by
      induction hnode with
      | self => exact hschema
      | within hpart _ ih =>
          subst hschema
          exact ih (List.mem_singleton.mp hpart)
    intro node hnode
    rw [hself node _ hnode rfl]
    exact ⟨by decide, rfl, rfl, rfl, rfl, rfl⟩

/-- A step whose error is tested to be a misfit ends by one. -/
theorem eq_misfit_of_test {α : Type} {x : Result α}
    (h : (match x with | .error e => e.kind == .misfit | .ok _ => false) = true) :
    x = .error .misfit := by
  cases x with
  | ok a => cases h
  | error e =>
      cases e with
      | misfit => rfl
      | _ => cases h

/-- **Typed definitions beyond the limits.** A listed number with too many digits and a schema that
contains itself end the run by a misfit, though all fields hold the kinds of values that they are
for, no schemas are combined and every array says what its elements are. -/
theorem exists_typed_misfit :
    IsTyped wideNumberList ∧
      (declaration (.str "Numbers") wideNumberList).result = .error .misfit ∧
      IsTyped endlessList ∧
      (declaration (.str "Lists") endlessList).result = .error .misfit ∧
      Error.misfit.kind ≠ .schema :=
  ⟨isTyped_wideNumberList, eq_misfit_of_test (by decide +kernel), isTyped_endlessList,
    eq_misfit_of_test (by decide +kernel), by decide⟩

end Client

end ClientScribe
