import ClientScribe.Proofs.Schema.DocType

/-!
# Schemas Without a Type

Reading a type off a schema uses its fields as what they are for: the type as a text, listed values
as a list, and so on. `HasFieldTypes` says that they are of these kinds. If they are, in a schema
and in all schemas inside it, only three things leave the schema without a type (`Refused`): an
array that does not say what its elements are, a listed value that cannot be written down, and
schemas that are nested too deeply.

The two types of a schema are read off by a function each, and each of them goes through the schema
once: `ends_typeWithin` and `ends_docTypeWithin` follow them by induction on the limit, which is
also how deep the schemas have to be nested for it to be reached.
-/

namespace ClientScribe

namespace Document

open Result (Ends)

namespace Value

/-! ### Kinds of values -/

/-- Whether a value is a text. -/
def isStr : Value → Bool
  | str _ => true
  | _ => false

/-- A list of values that pass a test. -/
def isListOf (p : Value → Bool) (v : Value) : Bool :=
  match v.view with
  | list vs => vs.all p
  | _ => false

/-- A mapping to values that pass a test. -/
def isMapOf (p : Value → Bool) (v : Value) : Bool :=
  match v.view with
  | map es => es.all fun e => p e.2
  | _ => false

/-- Texts and nothing else pass the test for texts. -/
theorem isStr_iff {v : Value} : v.isStr = true ↔ ∃ s, v = .str s := by
  cases v <;> simp [isStr]

/-- A value passes the test of lists exactly when it is one whose members pass theirs. -/
theorem isListOf_iff {p : Value → Bool} {v : Value} :
    v.isListOf p = true ↔ ∃ vs, v.view = .list vs ∧ ∀ w ∈ vs, p w = true := by
  unfold isListOf
  split
  · next vs hv => simp [hv]
  · next hv => simpa using fun vs h => absurd h (hv vs)

/-- A value passes the test of mappings exactly when it is one whose values pass theirs. -/
theorem isMapOf_iff {p : Value → Bool} {v : Value} :
    v.isMapOf p = true ↔ ∃ es, v.view = .map es ∧ ∀ e ∈ es, p e.2 = true := by
  unfold isMapOf
  split
  · next es hv => simp [hv]
  · next hv => simpa using fun es h => absurd h (hv es)

/-- A list of texts. -/
theorem exists_eq_map_str {vs : List Value} (h : ∀ w ∈ vs, w.isStr = true) :
    ∃ names : List Text, vs = names.map str := by
  induction vs with
  | nil => exact ⟨[], rfl⟩
  | cons v vs ih =>
      obtain ⟨s, rfl⟩ := isStr_iff.mp (h v List.mem_cons_self)
      obtain ⟨names, rfl⟩ := ih fun w hw => h w (List.mem_cons_of_mem _ hw)
      exact ⟨s :: names, rfl⟩

/-! ### Values that cannot be written down -/

/-- The values that are written down as part of one. -/
def writtenParts : Value → List Value
  | list vs => vs
  | tuple vs => vs
  | set vs => vs
  | map es => es.flatMap fun e => [e.1, e.2]
  | _ => []

/-- A value that cannot be written down within a limit: somewhere in it is a whole number with too
many digits, or values are nested as deeply as the limit. -/
inductive IsUnwritable : Nat → Value → Prop
  | tooDeep {v : Value} : IsUnwritable 0 v
  | tooLong {limit : Nat} {v : Value} {n : Int} (hv : v.view = .int n)
      (h : Nat.pow 10 mostDigits ≤ n.natAbs) : IsUnwritable limit v
  /-- A ring that lacks one of its members. -/
  | broken {limit : Nat} {v : Value}
      (hv : (∃ id, v.view = .link id) ∨ ∃ ring id, v.view = .looped ring id) : IsUnwritable limit v
  | inside {limit : Nat} {v part : Value} (hpart : part ∈ v.view.writtenParts)
      (h : IsUnwritable limit part) : IsUnwritable (limit + 1) v

variable {limit : Nat} {v : Value}

/-- A value is written down unless it is a number with too many digits or one of its parts is
not. -/
theorem ends_quotedBy {quote : Value → Except Unwritable Text} {Q : Unwritable → Prop}
    (hlong : ∀ n, v = .int n → Nat.pow 10 mostDigits ≤ n.natAbs → Q .tooLong)
    (hbroken : ((∃ id, v = .link id) ∨ ∃ ring id, v = .looped ring id) → Q .tooDeep)
    (hparts : ∀ part ∈ v.writtenParts, Ends (fun _ => True) Q (quote part)) :
    Ends (fun _ => True) Q (v.quotedBy quote) := by
  cases v with
  | int n =>
      rw [quotedBy, intText]
      split
      · exact .ok trivial
      · next hlong' => exact .error (hlong n rfl (Nat.not_lt.mp hlong'))
  | list vs => exact (Ends.mapM hparts).bind fun _ _ => .ok trivial
  | tuple vs =>
      match vs, hparts with
      | [], _ => exact .ok trivial
      | [part], hparts => exact (hparts part List.mem_cons_self).bind fun _ _ => .ok trivial
      | _ :: _ :: _, hparts => exact (Ends.mapM hparts).bind fun _ _ => .ok trivial
  | map es =>
      have hentry (e) (he : e ∈ es) : Ends (fun _ => True) Q (quotedEntry quote e) := by
        have hpart (part) (hpart : part ∈ [e.1, e.2]) : Ends (fun _ => True) Q (quote part) :=
          hparts part (List.mem_flatMap.mpr ⟨e, he, hpart⟩)
        refine (hpart e.1 (by simp)).bind fun _ _ => ?_
        exact (hpart e.2 (by simp)).bind fun _ _ => .ok trivial
      exact (Ends.mapM hentry).bind fun _ _ => .ok trivial
  | set vs =>
      match vs, hparts with
      | [], _ => exact .ok trivial
      | _ :: _, hparts => exact (Ends.mapM hparts).bind fun _ _ => .ok trivial
  | link id => exact .error (hbroken (.inl ⟨id, rfl⟩))
  | looped ring id => exact .error (hbroken (.inr ⟨ring, id, rfl⟩))
  | _ => exact .ok trivial

/-- The parts of a value are written down one level further in. -/
theorem ends_quotedInside (limit : Nat) (around : List Nat) (v : Value) :
    Ends (fun _ => True) (fun _ => IsUnwritable limit v) (quotedInside limit around v) := by
  induction limit generalizing around v with
  | zero => exact .error .tooDeep
  | succ limit ih =>
      have hview (around : List Nat) : Ends (fun _ => True) (fun _ => IsUnwritable (limit + 1) v)
          (v.view.quotedBy (quotedInside limit around)) := by
        refine ends_quotedBy (fun n hn hlong => .tooLong hn hlong) (fun hbroken => .broken hbroken)
          fun part hpart => ?_
        exact (ih around part).mono (fun _ h => h) fun _ h => .inside hpart h
      unfold quotedInside
      split
      · split
        · exact .ok trivial
        · exact hview _
      · next hnot =>
        have heq : v.view = v := by
          cases v with
          | looped ring id => exact absurd rfl (hnot ring id)
          | _ => rfl
        have h := hview around
        rwa [heq] at h

/-- A value without a text cannot be written down. -/
theorem ends_text (v : Value) :
    Ends (fun _ => True) (fun e => e = .misfit ∧ IsUnwritable nestingLimit v) v.text := by
  have h : Ends (fun _ => True) (fun _ => IsUnwritable nestingLimit v) v.wording := by
    unfold wording
    split
    · exact .ok trivial
    · exact .ok trivial
    · exact .ok trivial
    · exact ends_quotedInside nestingLimit [] v
  unfold text
  generalize v.wording = form at h ⊢
  cases h with
  | ok _ => exact .ok trivial
  | error h => exact .error ⟨rfl, h⟩

end Value

end Document

namespace Schema

open Document (Value nestingLimit)
open Document.Value (IsUnwritable)
open Result (Ends)

variable {schema part node items : Value} {limit : Nat} {e : Error}

/-! ### Fields of the right kinds -/

/-- The fields of a schema hold the kinds of values that they are for. -/
structure HasFieldTypes (schema : Value) : Prop where
  texts : ∀ k ∈ ["type", "format", "description", "$ref"],
    (schema.get? (Text.ofString k)).all Value.isStr = true
  listed : (schema.get? "enum").all (Value.isListOf fun _ => true) = true
  required : (schema.get? "required").all (Value.isListOf Value.isStr) = true
  inner : (schema.get? "schema").all Value.isMap = true
  properties : (schema.get? "properties").all (Value.isMapOf Value.isMap) = true
  combined : (schema.get? "allOf").all (Value.isListOf Value.isMap) = true

/-- A field for a text has one, if the schema has the field. -/
theorem HasFieldTypes.exists_text (h : HasFieldTypes schema) {k : String} {v : Value}
    (hk : k ∈ ["type", "format", "description", "$ref"])
    (hv : schema.get? (Text.ofString k) = some v) : ∃ s, v = .str s := by
  have htext := h.texts k hk
  rw [hv] at htext
  exact Value.isStr_iff.mp htext

/-- The type of a schema is a text if it says one. -/
theorem HasFieldTypes.typeField (h : HasFieldTypes schema) :
    typeField schema = .null ∨ ∃ s, typeField schema = .str s := by
  unfold Schema.typeField
  cases hget : schema.get? "type" with
  | none => exact .inl rfl
  | some v => exact .inr (h.exists_text (k := "type") (by decide) hget)

/-! ### What leaves a schema without a type -/

/-- Schemas are nested in a schema, one in the other, as deep as a limit. -/
inductive IsNestedTo : Nat → Value → Prop
  | zero {schema : Value} : IsNestedTo 0 schema
  | succ {limit : Nat} {schema part : Value} {k : String}
      (hk : k ∈ ["schema", "items", "additionalProperties"])
      (hpart : schema.get? (Text.ofString k) = some part) (h : IsNestedTo limit part) :
      IsNestedTo (limit + 1) schema

/-- Why a schema has no type within a limit. -/
inductive Refused (limit : Nat) (schema : Value) : Error → Prop
  | arrayWithoutItems {node : Value} (hnode : Inside node schema)
      (htype : typeField node = .str "array")
      (hitems : ((node.get? "items").getD .null).isMap = false) :
      Refused limit schema .arrayWithoutItems
  | unwritable {node v : Value} {vs : List Value} (hnode : Inside node schema)
      (hlisted : (listedField node).view = .list vs) (hv : v ∈ vs)
      (h : IsUnwritable nestingLimit v) : Refused limit schema .misfit
  | tooDeep (h : IsNestedTo limit schema) : Refused limit schema .misfit

/-- What leaves a schema inside another one without a type leaves the other one without. -/
theorem Refused.of_part {k : String} (h : Refused limit part e)
    (hk : k ∈ ["schema", "items", "additionalProperties"])
    (hpart : schema.get? (Text.ofString k) = some part) : Refused (limit + 1) schema e := by
  cases h with
  | arrayWithoutItems hnode htype hitems =>
      exact .arrayWithoutItems (.within hk hpart hnode) htype hitems
  | unwritable hnode hlisted hv h => exact .unwritable (.within hk hpart hnode) hlisted hv h
  | tooDeep h => exact .tooDeep (.succ hk hpart h)

/-! ### Kinds -/

/-- The field that a schema of a kind has. -/
def Kind.field? : Kind → Option Text
  | enumeration => some "enum"
  | reference => some "$ref"
  | wrapped => some "schema"
  | array => some "items"
  | dictionary => some "additionalProperties"
  | _ => none

/-- A schema of a kind has the field that goes with it, and elements are a mapping. -/
def HasFieldOf (schema : Value) (kind : Kind) : Prop :=
  ∀ k, kind.field? = some k →
    ∃ part, schema.get? k = some part ∧ (kind = .array → part.isMap = true)

/-- A kind whose field is there has it, if elements of an array are a mapping. -/
theorem hasFieldOf {k : Text} {kind : Kind} (hkind : kind.field? = some k)
    (hpart : schema.get? k = some part) (harray : kind = .array → part.isMap = true) :
    HasFieldOf schema kind := by
  intro k' hk'
  obtain rfl := Option.some.inj (hkind.symm.trans hk')
  exact ⟨part, hpart, harray⟩

/-- A kind other than an array has its field as soon as the field is there. -/
theorem hasFieldOf_of_ne {k : Text} {kind : Kind} (hkind : kind.field? = some k)
    (hpart : schema.get? k = some part) (hne : kind ≠ .array) : HasFieldOf schema kind :=
  hasFieldOf hkind hpart fun harray => absurd harray hne

/-- A kind without a field needs none. -/
theorem hasFieldOf_of_none {kind : Kind} (hkind : kind.field? = none) : HasFieldOf schema kind := by
  intro k hk
  rw [hkind] at hk
  contradiction

/-- A mapping has a kind unless it is an array without a mapping for its elements. -/
theorem ends_kindOf (hmap : schema.isMap = true) (withEnumeration : Bool) :
    Ends (HasFieldOf schema) (Refused limit schema) (kindOf schema withEnumeration) := by
  obtain ⟨es, hv⟩ := Value.isMap_iff.mp hmap
  simp only [kindOf, Value.field_of_view hv, Value.has_of_view hv, Value.fieldOr_of_view hv,
    Result.ok_bind, Result.pure_def]
  split
  · exact .ok (hasFieldOf_of_none rfl)
  split
  · next hlists =>
    cases henum : schema.get? "enum" with
    | none => simp [henum, Value.isTrue] at hlists
    | some values => exact .ok (hasFieldOf_of_ne rfl henum (by decide))
  split
  · next href =>
    obtain ⟨target, htarget⟩ := Option.isSome_iff_exists.mp href
    exact .ok (hasFieldOf_of_ne rfl htarget (by decide))
  split
  · next hwraps =>
    obtain ⟨inner, hinner⟩ := Option.isSome_iff_exists.mp hwraps
    exact .ok (hasFieldOf_of_ne rfl hinner (by decide))
  split
  · next harray =>
    split
    · next hitems =>
      cases hget : schema.get? "items" with
      | none => simp [hget, Value.isMap, Value.view] at hitems
      | some items => exact .ok (hasFieldOf rfl hget fun _ => by simpa [hget] using hitems)
    · next hitems =>
      exact .error (.arrayWithoutItems .self (Value.isText_iff.mp harray) (by simpa using hitems))
  split
  · split
    · exact .ok (hasFieldOf_of_none rfl)
    · next hgiven =>
      cases hget : schema.get? "additionalProperties" with
      | none => simp [hget, isFalse] at hgiven
      | some further => exact .ok (hasFieldOf_of_ne rfl hget (by decide))
  split
  · exact .ok (hasFieldOf_of_none rfl)
  split
  · exact .ok (hasFieldOf_of_none rfl)
  · exact .ok (hasFieldOf_of_none rfl)

/-- What the elements of an array say they are goes with a field as well. -/
theorem ends_elementKind (hmap : items.isMap = true) :
    Ends (fun kind? => ∀ kind, kind? = some kind → HasFieldOf items kind) (Refused limit items)
      (elementKind items) := by
  cases href : items.get? "$ref" with
  | some target =>
      rw [elementKind_of_reference href]
      refine .ok fun kind hkind => ?_
      obtain rfl := Option.some.inj hkind
      exact hasFieldOf_of_ne rfl href (by decide)
  | none =>
      by_cases hsilent : IsSilent items
      · rw [elementKind_of_isSilent hmap hsilent]
        exact .ok nofun
      · rw [elementKind_of_not_isSilent hmap href hsilent]
        refine (ends_kindOf hmap true).bind fun kind hkind => .ok fun kind' heq => ?_
        exact Option.some.inj heq ▸ hkind

/-! ### Types -/

/-- A type expression is written as a text. -/
def TypeExpr.HasText (e : TypeExpr) : Prop := ∃ s, e.value = .ok (.str s)

/-- An array of a type that has a text has one. -/
theorem TypeExpr.HasText.array {e : TypeExpr} (h : e.HasText) : (TypeExpr.array e).HasText := by
  obtain ⟨s, hs⟩ := h
  exact ⟨_, by rw [TypeExpr.value, hs]; rfl⟩

/-- A type that has a text has one in brackets. -/
theorem TypeExpr.HasText.group {e : TypeExpr} (h : e.HasText) : (TypeExpr.group e).HasText := by
  obtain ⟨s, hs⟩ := h
  exact ⟨_, by rw [TypeExpr.value, hs]; rfl⟩

/-- A dictionary of a type that has a text has one. -/
theorem TypeExpr.HasText.dictionary {e : TypeExpr} (h : e.HasText) :
    (TypeExpr.dictionary e).HasText := by
  obtain ⟨s, hs⟩ := h
  exact ⟨_, by rw [TypeExpr.value, hs]; rfl⟩

/-- What a schema refers to is a text. -/
theorem HasFieldTypes.ends_declaredBy {Q : Error → Prop} {target : Value} {qualified : Bool}
    (h : HasFieldTypes schema) (href : schema.get? "$ref" = some target) :
    Ends TypeExpr.HasText Q (declaredBy schema qualified) := by
  obtain ⟨s, rfl⟩ := h.exists_text (k := "$ref") (by decide) href
  rw [declaredBy_eq_ok_iff.mpr ⟨s, href, rfl⟩]
  exact .ok ⟨_, rfl⟩

/-- The type that a schema names is a text. -/
theorem HasFieldTypes.ends_givenOr {Q : Error → Prop} (h : HasFieldTypes schema)
    (hmap : schema.isMap = true) (word : Text) : Ends TypeExpr.HasText Q (givenOr schema word) := by
  obtain ⟨es, hv⟩ := Value.isMap_iff.mp hmap
  rw [givenOr_of_view hv]
  refine .ok ?_
  split
  · next htype =>
    obtain hnull | ⟨s, hs⟩ := h.typeField
    · simp [hnull, Value.isTrue] at htype
    · exact ⟨s, by rw [TypeExpr.value, hs]⟩
  · exact ⟨word, rfl⟩

/-- Listed values have literals unless one of them cannot be written down. -/
theorem ends_literals {values : Value} {vs : List Value} (hlisted : listedField schema = values)
    (hview : values.view = .list vs) (type : Value) :
    Ends (fun _ => True) (Refused limit schema) (literals values type) := by
  have hmembers : values.members = .ok vs := by rw [Value.members, hview]
  have htexts : Ends (fun _ => True) (Refused limit schema) (vs.mapM Value.text) := by
    refine Ends.mapM fun v hv => (Value.ends_text v).mono (fun _ h => h) ?_
    rintro _ ⟨rfl, h⟩
    exact .unwritable .self (hlisted ▸ hview) hv h
  rw [literals, hmembers, Result.ok_bind]
  exact htexts.bind fun _ _ => .ok trivial

/-- A run over a part of a schema refuses the schema if it refuses the part. -/
theorem ends_of_part {part : Value} {k : String} {x : Result TypeExpr}
    (hk : k ∈ ["schema", "items", "additionalProperties"])
    (hpart : schema.get? (Text.ofString k) = some part)
    (h : Ends TypeExpr.HasText (Refused limit part) x) :
    Ends TypeExpr.HasText (Refused (limit + 1) schema) x :=
  h.mono (fun _ h => h) fun _ h => h.of_part hk hpart

/-- **The type of a schema.** It can be written as a text unless the schema is refused. -/
theorem ends_typeWithin (qualified : Bool) (limit : Nat) (hmap : schema.isMap = true)
    (h : ∀ node, Inside node schema → HasFieldTypes node) :
    Ends TypeExpr.HasText (Refused limit schema) (typeWithin qualified limit schema) := by
  induction limit generalizing schema with
  | zero => exact .error (.tooDeep .zero)
  | succ limit ih =>
      obtain ⟨es, hv⟩ := Value.isMap_iff.mp hmap
      have hself : HasFieldTypes schema := h schema .self
      refine (ends_kindOf hmap true).bind fun kind hkind => ?_
      cases kind with
      | enumeration =>
          obtain ⟨values, hvalues, -⟩ := hkind "enum" rfl
          have hlist := hself.listed
          rw [hvalues] at hlist
          obtain ⟨vs, hvs, -⟩ := Value.isListOf_iff.mp hlist
          have hlisted : listedField schema = values := by
            rw [listedField, hvalues, Option.getD_some]
          rw [Value.demand_eq_ok_iff.mpr hvalues, Value.field_of_view hv]
          exact (ends_literals hlisted hvs _).bind fun _ _ => .ok ⟨_, rfl⟩
      | reference =>
          obtain ⟨target, htarget, -⟩ := hkind "$ref" rfl
          exact hself.ends_declaredBy htarget
      | wrapped =>
          obtain ⟨inner, hinner, -⟩ := hkind "schema" rfl
          have hinnerMap := hself.inner
          rw [hinner] at hinnerMap
          rw [Value.demand_eq_ok_iff.mpr hinner]
          exact ends_of_part (by decide) hinner
            (ih hinnerMap (forall_inside_of_part h (by decide) hinner))
      | array =>
          obtain ⟨items, hitems, hitemsMap⟩ := hkind "items" rfl
          have hinside := forall_inside_of_part h (by decide) hitems
          have helement : Ends TypeExpr.HasText (Refused (limit + 1) schema)
              (typeWithin qualified limit items) :=
            ends_of_part (by decide) hitems (ih (hitemsMap rfl) hinside)
          have hkinds : Ends (fun kind? => ∀ kind, kind? = some kind → HasFieldOf items kind)
              (Refused (limit + 1) schema) (elementKind items) :=
            (ends_elementKind (hitemsMap rfl)).mono (fun _ h => h)
              fun _ (h : Refused limit items _) => h.of_part (by decide) hitems
          rw [Value.demand_eq_ok_iff.mpr hitems]
          refine hkinds.bind fun elements helements => ?_
          split
          · obtain ⟨target, htarget, -⟩ := helements _ rfl "$ref" rfl
            exact ((hinside items .self).ends_declaredBy htarget).bind fun _ he => .ok he.array
          · exact helement.bind fun _ he => .ok he.group.array
          · exact .ok ⟨_, rfl⟩
          · exact helement.bind fun _ he => .ok he.array
      | dictionary =>
          obtain ⟨further, hfurther, -⟩ := hkind "additionalProperties" rfl
          rw [Value.demand_eq_ok_iff.mpr hfurther]
          dsimp only [Result.ok_bind]
          split
          · next hfurtherMap =>
            exact (ends_of_part (by decide) hfurther
              (ih hfurtherMap (forall_inside_of_part h (by decide) hfurther))).bind
                fun _ he => .ok he.dictionary
          · exact .ok ⟨_, rfl⟩
      | primitive => exact hself.ends_givenOr hmap "any"
      | _ => exact .ok ⟨_, rfl⟩

/-- **The type of a schema in the documentation.** It can be written as a text unless the schema is
refused. -/
theorem ends_docTypeWithin (limit : Nat) (hmap : schema.isMap = true)
    (h : ∀ node, Inside node schema → HasFieldTypes node) :
    Ends TypeExpr.HasText (Refused limit schema) (docTypeWithin limit schema) := by
  induction limit generalizing schema with
  | zero => exact .error (.tooDeep .zero)
  | succ limit ih =>
      have hself : HasFieldTypes schema := h schema .self
      refine (ends_kindOf hmap false).bind fun kind hkind => ?_
      cases kind with
      | reference =>
          obtain ⟨target, htarget, -⟩ := hkind "$ref" rfl
          exact hself.ends_declaredBy htarget
      | wrapped =>
          obtain ⟨inner, hinner, -⟩ := hkind "schema" rfl
          have hinnerMap := hself.inner
          rw [hinner] at hinnerMap
          rw [Value.demand_eq_ok_iff.mpr hinner]
          exact ends_of_part (by decide) hinner
            (ih hinnerMap (forall_inside_of_part h (by decide) hinner))
      | array =>
          obtain ⟨items, hitems, hitemsMap⟩ := hkind "items" rfl
          obtain ⟨es, hv⟩ := Value.isMap_iff.mp (hitemsMap rfl)
          have hinside := forall_inside_of_part h (by decide) hitems
          have helement : Ends TypeExpr.HasText (Refused (limit + 1) schema)
              (docTypeWithin limit items) :=
            ends_of_part (by decide) hitems (ih (hitemsMap rfl) hinside)
          rw [Value.demand_eq_ok_iff.mpr hitems]
          simp only [Result.ok_bind, Value.has_of_view hv, Value.field_of_view hv]
          split
          · next href =>
            obtain ⟨target, htarget⟩ := Option.isSome_iff_exists.mp href
            exact ((hinside items .self).ends_declaredBy htarget).bind fun _ he => .ok he.array
          split
          · exact helement.bind fun _ he => .ok he.array
          · exact .ok ⟨_, rfl⟩
      | enumeration => exact hself.ends_givenOr hmap "object"
      | primitive => exact hself.ends_givenOr hmap "object"
      | _ => exact .ok ⟨_, rfl⟩

/-- The texts of both types are there unless the schema is refused. -/
theorem ends_typeText (hmap : schema.isMap = true)
    (h : ∀ node, Inside node schema → HasFieldTypes node) (qualified : Bool) :
    Ends (fun _ => True) (Refused nestingLimit schema) (typeText schema qualified) := by
  refine (ends_typeWithin qualified nestingLimit hmap h).bind fun e he => ?_
  obtain ⟨s, hs⟩ := he
  exact hs ▸ .ok trivial

/-- The text of the documentation is there unless the schema is refused. -/
theorem ends_docTypeText (hmap : schema.isMap = true)
    (h : ∀ node, Inside node schema → HasFieldTypes node) :
    Ends (fun _ => True) (Refused nestingLimit schema) (docTypeText schema) := by
  refine (ends_docTypeWithin nestingLimit hmap h).bind fun e he => ?_
  obtain ⟨s, hs⟩ := he
  exact hs ▸ .ok trivial

end Schema

end ClientScribe
