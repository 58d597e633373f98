import ClientScribe.Client.Definition
import ClientScribe.Proofs.Document.Field

/-!
# Inline Bodies

A body is inline if it is an object with a structure of its own, or an array of such objects. Its
type is then named after the operation, and the registry of definitions keeps a definition under
that name: the object itself, or the elements of the array as an object. This module says which
bodies are inline (`ownDefinition?`) apart from the code that names and the code that registers
them, and proves that the naming follows it:

* `bodyType_of_isInlineObject`, `bodyType_of_inlineElements?`: the type of an inline body is the
  declared name, with brackets behind it for an array;
* `bodyType_eq_of_ownDefinition?_eq_none`: the type of any other body does not depend on that name.
-/

namespace ClientScribe.Client

open Document (Value Entries lookup put nestingLimit)
open Schema (isInlineObject isInlineArray kindOf nameOf nameWithin qualifiedName)

variable {schema items : Value} {name : Text}

/-- The elements of a schema that is no reference and an array of objects with a structure of their
own. -/
def inlineElements? (schema : Value) : Option Value :=
  if (schema.get? "$ref").isNone && ((schema.get? "type").getD .null).isText "array" then
    (schema.get? "items").filter isInlineObject
  else none

/-- The elements of an array as a definition: their fields with the type of an object, and with the
description of the array if it has one. -/
def elementsDefinition (schema items : Value) : Value :=
  let fields :=
    match items.view with
    | .map fields => put (.str "type") (.str "object") fields
    | _ => []
  let description := (schema.get? "description").getD .null
  .map (if description.isTrue then put (.str "description") description fields else fields)

/-- The definition that a body brings along, if it is inline. -/
def ownDefinition? (schema : Value) : Option Value :=
  if isInlineObject schema then some schema
  else (inlineElements? schema).map (elementsDefinition schema)

/-- What stands behind the declared name in the type of an inline body. -/
def ownBrackets (schema : Value) : Text :=
  if isInlineObject schema then [] else "[]"

/-- A body that, if it is an inline array, wraps no other schema whose name it would take: neither
it nor its elements have a schema inside. -/
def IsUnwrapped (schema : Value) : Prop :=
  ∀ items, inlineElements? schema = some items →
    schema.get? "schema" = none ∧ items.get? "schema" = none

instance (schema : Value) : Decidable (IsUnwrapped schema) :=
  match h : inlineElements? schema with
  | none => .isTrue fun items hitems => by simp [h] at hitems
  | some items =>
      decidable_of_iff ((schema.get? "schema").isNone ∧ (items.get? "schema").isNone) <| by
        simp [IsUnwrapped, h]

/-! ### What an inline object and an inline array say -/

/-- An inline object is a mapping without a reference, of type object or without a type, that has
properties or combines schemas. -/
theorem isInlineObject_iff : isInlineObject schema = true ↔
    (∃ es, schema.view = .map es) ∧ schema.get? "$ref" = none ∧
      (((schema.get? "type").getD .null).isNull = true ∨
        ((schema.get? "type").getD .null).isText "object" = true) ∧
      ((schema.get? "properties").isSome = true ∨ (schema.get? "allOf").isSome = true) := by
  unfold isInlineObject
  split
  · next es hv => simp [hv, Value.get?_of_view hv, and_assoc]
  · next hv => simpa using fun es h => absurd h (hv es)

/-- An inline object counts as given. -/
theorem isTrue_of_isInlineObject (h : isInlineObject schema = true) : schema.isTrue = true := by
  obtain ⟨-, -, -, hshape⟩ := isInlineObject_iff.mp h
  obtain h | h := hshape <;>
    obtain ⟨w, hw⟩ := Option.isSome_iff_exists.mp h <;>
    exact Value.isTrue_of_get? hw

/-- An empty mapping in the place of what does not count as given is no inline object either. -/
theorem isInlineObject_orElse (v : Value) :
    isInlineObject (v.orElse (.map [])) = isInlineObject v := by
  unfold Value.orElse
  split
  · rfl
  · next h =>
    rw [Bool.eq_false_iff.mpr fun hinline => h (isTrue_of_isInlineObject hinline)]
    rfl

/-- A mapping of type array is no inline object. -/
theorem isInlineObject_eq_false_of_array
    (h : ((schema.get? "type").getD .null).isText "array" = true) :
    isInlineObject schema = false := by
  rw [Bool.eq_false_iff, Ne, isInlineObject_iff, Value.isText_iff.mp h]
  rintro ⟨-, -, hnull | hobject, -⟩
  · cases hnull
  · simp at hobject

/-- The elements of a schema are inline exactly if it is an array of inline objects and no
reference. -/
theorem inlineElements?_eq_some_iff : inlineElements? schema = some items ↔
    schema.get? "$ref" = none ∧ ((schema.get? "type").getD .null).isText "array" = true ∧
      schema.get? "items" = some items ∧ isInlineObject items = true := by
  unfold inlineElements?
  split
  · next h =>
    rw [Bool.and_eq_true, Option.isNone_iff_eq_none] at h
    simp [h, Option.filter_eq_some_iff]
  · next h =>
    rw [Bool.and_eq_true, Option.isNone_iff_eq_none] at h
    simp only [reduceCtorEq, false_iff]
    rintro ⟨href, htype, -⟩
    exact h ⟨href, htype⟩

/-- An array is no object, so no body is inline in both ways. -/
theorem isInlineObject_eq_false_of_inlineElements? (h : inlineElements? schema = some items) :
    isInlineObject schema = false :=
  isInlineObject_eq_false_of_array (inlineElements?_eq_some_iff.mp h).2.1

/-- The elements of an inline array always make a definition. -/
theorem flattened_of_inlineElements? (h : inlineElements? schema = some items) :
    flattened schema items = .ok (elementsDefinition schema items) := by
  obtain ⟨-, -, hitems, hinline⟩ := inlineElements?_eq_some_iff.mp h
  obtain ⟨es, hv⟩ := Value.exists_view_of_get? hitems
  obtain ⟨⟨fields, hfields⟩, -⟩ := isInlineObject_iff.mp hinline
  simp [flattened, elementsDefinition, Value.entries_eq_ok_iff.mpr hfields, hfields,
    Value.field_of_view hv]

/-! ### The definition that a body brings along -/

/-- An inline object is its own definition. -/
theorem ownDefinition?_of_isInlineObject (h : isInlineObject schema = true) :
    ownDefinition? schema = some schema := by
  simp [ownDefinition?, h]

/-- An inline array brings the definition of its elements along. -/
theorem ownDefinition?_of_inlineElements? (h : inlineElements? schema = some items) :
    ownDefinition? schema = some (elementsDefinition schema items) := by
  simp [ownDefinition?, isInlineObject_eq_false_of_inlineElements? h, h]

/-- Beside type and description, the elements of an inline array have the fields that they have. -/
theorem get?_elementsDefinition {k : Text} (hv : ∃ fields, items.view = .map fields)
    (htype : k ≠ "type") (hdescription : k ≠ "description") :
    (elementsDefinition schema items).get? k = items.get? k := by
  obtain ⟨fields, hv⟩ := hv
  rw [Value.get?_of_view hv]
  simp only [elementsDefinition, hv]
  split
  · rw [Value.get?_of_view rfl, Document.lookup_put_of_ne hdescription,
      Document.lookup_put_of_ne htype]
  · rw [Value.get?_of_view rfl, Document.lookup_put_of_ne htype]

/-- The elements of an inline array have the type of an object. -/
theorem get?_type_elementsDefinition {fields : Entries} (hv : items.view = .map fields) :
    (elementsDefinition schema items).get? "type" = some (.str "object") := by
  simp only [elementsDefinition, hv]
  split
  · rw [Value.get?_of_view rfl, Document.lookup_put_of_ne (by decide), Document.lookup_put_self]
  · rw [Value.get?_of_view rfl, Document.lookup_put_self]

/-- The elements of an inline array have the description of the array, or their own if that has
none. -/
theorem get?_description_elementsDefinition {fields : Entries} (hv : items.view = .map fields) :
    (elementsDefinition schema items).get? "description" =
      if ((schema.get? "description").getD .null).isTrue then schema.get? "description"
      else items.get? "description" := by
  have hgiven : ((schema.get? "description").getD .null).isTrue = true →
      some ((schema.get? "description").getD .null) = schema.get? "description" := by
    cases schema.get? "description" with
    | none => nofun
    | some description => exact fun _ => rfl
  simp only [elementsDefinition, hv]
  split
  · next htrue => rw [Value.get?_of_view rfl, Document.lookup_put_self, hgiven htrue]
  · rw [Value.get?_of_view rfl, Value.get?_of_view hv, Document.lookup_put_of_ne (by decide)]

/-- A definition that a body brings along is no reference, has the type of an object or none, and
has properties or combines schemas if it has none. -/
theorem get?_of_ownDefinition? {own : Value} (h : ownDefinition? schema = some own) :
    own.get? "$ref" = none ∧
      (((own.get? "type").getD .null).isText "object" = true ∨
        ((own.get? "type").getD .null).isNull = true ∧
          ((own.get? "properties").isSome = true ∨ (own.get? "allOf").isSome = true)) := by
  cases hobject : isInlineObject schema with
  | true =>
      obtain rfl : schema = own := by simpa [ownDefinition?, hobject] using h
      obtain ⟨-, href, htype, hshape⟩ := isInlineObject_iff.mp hobject
      exact ⟨href, htype.symm.imp_right fun hnull => ⟨hnull, hshape⟩⟩
  | false =>
      obtain ⟨items, helements, rfl⟩ :
          ∃ items, inlineElements? schema = some items ∧ elementsDefinition schema items = own := by
        simpa [ownDefinition?, hobject] using h
      obtain ⟨-, -, -, hinline⟩ := inlineElements?_eq_some_iff.mp helements
      obtain ⟨⟨fields, hv⟩, href, -⟩ := isInlineObject_iff.mp hinline
      refine ⟨?_, .inl ?_⟩
      · rw [get?_elementsDefinition ⟨fields, hv⟩ (by decide) (by decide), href]
      · rw [get?_type_elementsDefinition hv]
        rfl

/-- A reference brings no definition along. -/
theorem ownDefinition?_of_reference {target : Value} (h : schema.get? "$ref" = some target) :
    ownDefinition? schema = none := by
  have hobject : isInlineObject schema = false := by
    rw [Bool.eq_false_iff, Ne, isInlineObject_iff]
    rintro ⟨-, href, -⟩
    simp [h] at href
  simp [ownDefinition?, hobject, inlineElements?, h]

/-- A schema that is neither an inline object nor an array brings no definition along. -/
theorem ownDefinition?_of_type (hobject : isInlineObject schema = false)
    (htype : ((schema.get? "type").getD .null).isText "array" = false) :
    ownDefinition? schema = none := by
  simp [ownDefinition?, hobject, inlineElements?, htype]

/-- An array whose items are no inline object brings no definition along. -/
theorem ownDefinition?_of_items (hobject : isInlineObject schema = false)
    (hitems : ∀ items, schema.get? "items" = some items → isInlineObject items = false) :
    ownDefinition? schema = none := by
  have helements : inlineElements? schema = none := by
    cases h : inlineElements? schema with
    | none => rfl
    | some items =>
        obtain ⟨-, -, hsome, hinline⟩ := inlineElements?_eq_some_iff.mp h
        simp [hitems items hsome] at hinline
  simp [ownDefinition?, hobject, helements]

/-! ### The name for the type of an inline body -/

/-- A mapping of type array that is no reference, wraps nothing and has a mapping for its items is
read as an array. -/
theorem kindOf_array (htype : ((schema.get? "type").getD .null).isText "array" = true)
    (href : schema.get? "$ref" = none) (hwrap : schema.get? "schema" = none)
    (hitems : schema.get? "items" = some items) (hmap : items.isMap = true) :
    kindOf schema false = .ok .array := by
  obtain ⟨es, hv⟩ := Value.exists_view_of_get? hitems
  simp [kindOf, Value.isTrue_of_get? hitems, Value.field_of_view hv, Value.has_of_view hv, htype,
    href, hwrap, hitems, hmap]

/-- An inline object that says that it is an object and wraps nothing is read as an object, with
further fields or without. -/
theorem kindOf_object (hinline : isInlineObject schema = true)
    (htype : ((schema.get? "type").getD .null).isText "object" = true)
    (hwrap : schema.get? "schema" = none) :
    kindOf schema false = .ok .object ∨ kindOf schema false = .ok .dictionary := by
  obtain ⟨⟨es, hv⟩, href, -⟩ := isInlineObject_iff.mp hinline
  rw [Value.isText_iff] at htype
  simp [kindOf, isTrue_of_isInlineObject hinline, Value.field_of_view hv, Value.has_of_view hv,
    Value.fieldOr_of_view hv, htype, href, hwrap]

/-- An inline object that wraps nothing has no name of its own. -/
theorem nameWithin_of_isInlineObject (hinline : isInlineObject schema = true)
    (htype : ((schema.get? "type").getD .null).isText "object" = true)
    (hwrap : schema.get? "schema" = none) (ofElements : Bool) (limit : Nat) :
    nameWithin name ofElements (limit + 1) schema = .ok name := by
  rw [nameWithin]
  obtain hk | hk := kindOf_object hinline htype hwrap <;> simp [hk]

/-- The elements of an inline array have no name of their own, so the array is named by the
fallback. -/
theorem nameOf_of_inlineElements? (h : inlineElements? schema = some items)
    (hplain : IsUnwrapped schema) (ofElements : Bool) :
    nameOf schema name ofElements = .ok (name ++ if ofElements then [] else "[]") := by
  obtain ⟨href, htype, hitems, hinline⟩ := inlineElements?_eq_some_iff.mp h
  obtain ⟨⟨fields, hfields⟩, hitemsRef, hitemsType, -⟩ := isInlineObject_iff.mp hinline
  obtain ⟨hwrap, hitemsWrap⟩ := hplain items h
  have hkind : kindOf schema false = .ok .array :=
    kindOf_array htype href hwrap hitems (Value.isMap_iff.mpr ⟨fields, hfields⟩)
  have hdemand : schema.demand "items" = .ok items := Value.demand_eq_ok_iff.mpr hitems
  show nameWithin name ofElements (979 + 1) schema = _
  rw [nameWithin]
  simp only [hkind, Result.ok_bind, hdemand, Value.has_of_view hfields, hitemsRef,
    Value.field_of_view hfields]
  obtain hnull | hobject := hitemsType
  · -- elements without a type are not asked for a name
    have hfalse : ((items.get? "type").getD .null).isTrue = false := by
      cases hnone : (items.get? "type").getD .null <;> simp_all [Value.isNull, Value.isTrue]
    simp [hfalse]
  · have htrue : ((items.get? "type").getD .null).isTrue = true := by
      rw [Value.isText_iff.mp hobject]
      rfl
    simp [htrue, nameWithin_of_isInlineObject hinline hobject hitemsWrap]

/-! ### The type of a body -/

/-- A schema is an inline array if it is an array and its items are an inline object; that it is no
reference is not asked. -/
theorem isInlineArray_eq_ok_true_iff : isInlineArray schema = .ok true ↔
    ((schema.get? "type").getD .null).isText "array" = true ∧
      ∃ items, schema.get? "items" = some items ∧ isInlineObject items = true := by
  simp only [isInlineArray, Result.bind_eq_ok_iff, Value.field_eq_ok_iff, Result.pure_def,
    Except.ok.injEq, Bool.and_eq_true]
  constructor
  · rintro ⟨_, ⟨-, rfl⟩, _, ⟨-, rfl⟩, htype, hinline⟩
    cases hitems : schema.get? "items" with
    | none => simp [hitems, isInlineObject, Value.view] at hinline
    | some items => exact ⟨htype, items, rfl, by simpa [hitems] using hinline⟩
  · rintro ⟨htype, items, hitems, hinline⟩
    have hview := Value.exists_view_of_get? hitems
    exact ⟨_, ⟨hview, rfl⟩, _, ⟨hview, rfl⟩, htype, by simpa [hitems] using hinline⟩

/-- A body that is an object with a structure of its own has the declared name for its type. -/
theorem bodyType_of_isInlineObject (h : isInlineObject schema = true) (name : Text) :
    bodyType schema name = .ok (.str (qualifiedName name true)) := by
  obtain ⟨⟨es, hv⟩, -⟩ := isInlineObject_iff.mp h
  simp [bodyType, Value.isNull_of_view hv, h]

/-- An array of such objects has the declared name with brackets behind it for its type. -/
theorem bodyType_of_inlineElements? (h : inlineElements? schema = some items)
    (hplain : IsUnwrapped schema) (name : Text) :
    bodyType schema name = .ok (.str (qualifiedName name true ++ "[]")) := by
  obtain ⟨-, htype, hitems, hinline⟩ := inlineElements?_eq_some_iff.mp h
  obtain ⟨es, hv⟩ := Value.exists_view_of_get? hitems
  have harray : isInlineArray schema = .ok true :=
    isInlineArray_eq_ok_true_iff.mpr ⟨htype, items, hitems, hinline⟩
  simp [bodyType, Value.isNull_of_view hv, isInlineObject_eq_false_of_inlineElements? h, harray,
    nameOf_of_inlineElements? h hplain]

/-- The type of a body that is not inline does not depend on the declared name. -/
theorem bodyType_eq_of_ownDefinition?_eq_none (h : ownDefinition? schema = none)
    (name other : Text) : bodyType schema name = bodyType schema other := by
  obtain ⟨hobject, helements⟩ : isInlineObject schema = false ∧ inlineElements? schema = none := by
    unfold ownDefinition? at h
    split at h
    · cases h
    · next hobject => exact ⟨by simpa using hobject, by simpa using h⟩
  unfold bodyType
  rw [hobject]
  cases harray : isInlineArray schema with
  | error e => simp
  | ok isArray =>
      cases isArray with
      | false => simp
      | true =>
          -- such an array is a reference, whose name is that of its target
          obtain ⟨htype, items, hitems, hinline⟩ := isInlineArray_eq_ok_true_iff.mp harray
          obtain ⟨es, hv⟩ := Value.exists_view_of_get? hitems
          have href : schema.get? "$ref" ≠ none := fun hnone =>
            absurd (inlineElements?_eq_some_iff.mpr ⟨hnone, htype, hitems, hinline⟩)
              (by simp [helements])
          have hkind : kindOf schema false = .ok .reference := by
            simp [kindOf, Value.isTrue_of_get? hitems, Value.field_of_view hv,
              Value.has_of_view hv, Option.isSome_iff_ne_none.mpr href]
          have hname (n : Text) : nameOf schema n true =
              (schema.demand "$ref" >>= Api.referenceName) := by
            show nameWithin n true (979 + 1) schema = _
            rw [nameWithin, hkind]
            rfl
          simp [hname]

end ClientScribe.Client
