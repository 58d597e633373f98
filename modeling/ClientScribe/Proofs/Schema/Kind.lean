import ClientScribe.Schema.TypeExpr
import ClientScribe.Proofs.Document.Field

/-!
# What Schemas Say

`kindOf` reads the kind of a schema off in a fixed order, and each question that it asks may end the
run. `Says` lists what it means for a schema to be of a kind, without an order: listed values come
before all else, a reference comes before what is wrapped, and both come before the type.
`kindOf_eq_ok_iff` says that the two agree.

Without listed values the kind is the same whether they are asked for or not
(`kindOf_of_not_listsValues`). The elements of an array are first asked for a reference and then
whether they say anything at all (`elementKind_of_not_isSilent`); so a reference beside listed
values is a reference as the element of an array, and listed values elsewhere.
-/

namespace ClientScribe.Schema

open Document (Value Entries)

variable {schema items : Value} {kind : Kind}

/-- The type that a schema says it has, null if it says nothing. -/
def typeField (schema : Value) : Value := (schema.get? "type").getD .null

/-- The values that a schema lists, null if it lists none. -/
def listedField (schema : Value) : Value := (schema.get? "enum").getD .null

/-- A schema lists its values, and does so for a type for which they count. -/
def ListsValues (schema : Value) : Prop :=
  (listedField schema).isTrue = true ∧ isListable (typeField schema) = true

/-- A schema speaks for itself: it lists no values, refers to no other schema and wraps none. -/
structure IsOwn (schema : Value) : Prop where
  notListed : ¬ ListsValues schema
  noReference : schema.get? "$ref" = none
  noInner : schema.get? "schema" = none

/-- What it means for a schema to be of a kind. -/
inductive Says (schema : Value) : Kind → Prop
  | absent (h : schema.isTrue = false) : Says schema .absent
  | enumeration (h : ListsValues schema) : Says schema .enumeration
  | reference {target : Value} (hlisted : ¬ ListsValues schema)
      (href : schema.get? "$ref" = some target) : Says schema .reference
  | wrapped {inner : Value} (hlisted : ¬ ListsValues schema) (href : schema.get? "$ref" = none)
      (hinner : schema.get? "schema" = some inner) : Says schema .wrapped
  | array {items : Value} (hown : IsOwn schema) (htype : typeField schema = .str "array")
      (hitems : schema.get? "items" = some items) (hmap : items.isMap = true) : Says schema .array
  | dictionary {further : Value} (hown : IsOwn schema) (htype : typeField schema = .str "object")
      (hfurther : schema.get? "additionalProperties" = some further)
      (hgiven : isFalse further = false) : Says schema .dictionary
  | object (hown : IsOwn schema) (htype : typeField schema = .str "object")
      (hfurther : isFalse ((schema.get? "additionalProperties").getD (.bool false)) = true) :
      Says schema .object
  | integer (hown : IsOwn schema) (htype : typeField schema = .str "integer") :
      Says schema .integer
  | date (hown : IsOwn schema) (htype : typeField schema = .str "string")
      (hformat : isDateFormat ((schema.get? "format").getD .null) = true) : Says schema .date
  | primitive (hown : IsOwn schema) (hmap : schema.isMap = true) (hgiven : schema.isTrue = true)
      (htype :
        ∀ name ∈ ["array", "object", "integer"], typeField schema ≠ .str (Text.ofString name))
      (hformat : typeField schema = .str "string" →
        isDateFormat ((schema.get? "format").getD .null) = false) : Says schema .primitive

/-- A schema with a type is a mapping that counts as given. -/
theorem exists_view_of_typeField {type : Text} (h : typeField schema = .str type) :
    (∃ es, schema.view = .map es) ∧ schema.isTrue = true := by
  unfold typeField at h
  cases hget : schema.get? "type" with
  | none =>
      rw [hget] at h
      cases h
  | some w => exact ⟨Value.exists_view_of_get? hget, Value.isTrue_of_get? hget⟩

/-- A schema that lists its values is a mapping that counts as given. -/
theorem exists_view_of_listsValues (h : ListsValues schema) :
    (∃ es, schema.view = .map es) ∧ schema.isTrue = true := by
  obtain ⟨h, -⟩ := h
  unfold listedField at h
  cases hget : schema.get? "enum" with
  | none =>
      rw [hget] at h
      cases h
  | some w => exact ⟨Value.exists_view_of_get? hget, Value.isTrue_of_get? hget⟩

/-- What a schema says that counts as given is asked of a mapping. -/
theorem Says.exists_view (h : Says schema kind) (hkind : kind ≠ .absent) :
    (∃ es, schema.view = .map es) ∧ schema.isTrue = true := by
  cases h with
  | absent => exact absurd rfl hkind
  | enumeration h => exact exists_view_of_listsValues h
  | reference _ href => exact ⟨Value.exists_view_of_get? href, Value.isTrue_of_get? href⟩
  | wrapped _ _ hinner => exact ⟨Value.exists_view_of_get? hinner, Value.isTrue_of_get? hinner⟩
  | array _ htype => exact exists_view_of_typeField htype
  | dictionary _ htype => exact exists_view_of_typeField htype
  | object _ htype => exact exists_view_of_typeField htype
  | integer _ htype => exact exists_view_of_typeField htype
  | date _ htype => exact exists_view_of_typeField htype
  | primitive _ hmap hgiven => exact ⟨Value.isMap_iff.mp hmap, hgiven⟩

/-- What the kind of a schema tells of it. -/
theorem says_of_kindOf (h : kindOf schema true = .ok kind) : Says schema kind := by
  by_cases hgiven : schema.isTrue = true
  swap
  · have hfalse : schema.isTrue = false := by simpa using hgiven
    have hkind : kindOf schema true = .ok .absent := by simp [kindOf, hfalse]
    obtain rfl := Except.ok.inj (hkind.symm.trans h)
    exact .absent hfalse
  -- asking for the type, the schema turns out to be a mapping, and no later question fails
  obtain ⟨es, hv⟩ : ∃ es, schema.view = .map es := by
    simp only [kindOf, hgiven, Bool.not_true, Bool.false_eq_true, if_false, Result.bind_eq_ok_iff,
      Value.field_eq_ok_iff] at h
    obtain ⟨_, ⟨hview, -⟩, -⟩ := h
    exact hview
  simp only [kindOf, hgiven, Bool.not_true, Bool.false_eq_true, if_false, Value.field_of_view hv,
    Value.has_of_view hv, Value.fieldOr_of_view hv, Result.ok_bind, Result.pure_def,
    Bool.true_and] at h
  split at h
  · next hlists =>
    obtain rfl := Except.ok.inj h
    exact .enumeration ((Bool.and_eq_true _ _).mp hlists)
  next hlists =>
  have hlisted : ¬ ListsValues schema := fun hl => hlists ((Bool.and_eq_true _ _).mpr hl)
  split at h
  · next href =>
    obtain rfl := Except.ok.inj h
    obtain ⟨target, htarget⟩ := Option.isSome_iff_exists.mp href
    exact .reference hlisted htarget
  next href =>
  have hnone : schema.get? "$ref" = none := Option.not_isSome_iff_eq_none.mp href
  split at h
  · next hwraps =>
    obtain rfl := Except.ok.inj h
    obtain ⟨inner, hinner⟩ := Option.isSome_iff_exists.mp hwraps
    exact .wrapped hlisted hnone hinner
  next hwraps =>
  have hown : IsOwn schema := ⟨hlisted, hnone, Option.not_isSome_iff_eq_none.mp hwraps⟩
  split at h
  · next harray =>
    split at h
    · next hmap =>
      obtain rfl := Except.ok.inj h
      cases hitems : schema.get? "items" with
      | none => simp [hitems, Value.isMap, Value.view] at hmap
      | some items =>
          exact .array hown (Value.isText_iff.mp harray) hitems (by simpa [hitems] using hmap)
    · cases h
  next harray =>
  split at h
  · next hobject =>
    have htype : typeField schema = .str "object" := Value.isText_iff.mp hobject
    split at h
    · next hfurther =>
      obtain rfl := Except.ok.inj h
      exact .object hown htype hfurther
    · next hfurther =>
      obtain rfl := Except.ok.inj h
      cases hget : schema.get? "additionalProperties" with
      | none => simp [hget, isFalse] at hfurther
      | some further => exact .dictionary hown htype hget (by simpa [hget] using hfurther)
  next hobject =>
  split at h
  · next hinteger =>
    obtain rfl := Except.ok.inj h
    exact .integer hown (Value.isText_iff.mp hinteger)
  next hinteger =>
  have htypes : ∀ name ∈ ["array", "object", "integer"],
      typeField schema ≠ .str (Text.ofString name) := by
    intro name hname heq
    have htext : (typeField schema).isText (Text.ofString name) = true := Value.isText_iff.mpr heq
    simp only [List.mem_cons, List.not_mem_nil, or_false] at hname
    rcases hname with rfl | rfl | rfl
    · exact harray htext
    · exact hobject htext
    · exact hinteger htext
  split at h
  · next hdate =>
    obtain rfl := Except.ok.inj h
    obtain ⟨hstring, hformat⟩ := (Bool.and_eq_true _ _).mp hdate
    exact .date hown (Value.isText_iff.mp hstring) hformat
  · next hdate =>
    obtain rfl := Except.ok.inj h
    refine .primitive hown (Value.isMap_iff.mpr ⟨es, hv⟩) hgiven htypes fun hstring => ?_
    by_contra hformat
    exact hdate ((Bool.and_eq_true _ _).mpr
      ⟨Value.isText_iff.mpr hstring, by simpa using hformat⟩)

/-- Whether listed values are asked for makes no difference to a schema that lists none. -/
theorem kindOf_of_not_listsValues (h : ¬ ListsValues schema) :
    kindOf schema true = kindOf schema false := by
  by_cases hgiven : schema.isTrue = true
  swap
  · simp [kindOf, hgiven]
  cases hview : schema.entries with
  | error e =>
      have hfield (k : Text) : schema.field k = .error e := by
        rw [Value.field, Value.fieldOr, Value.field?, hview]
        rfl
      simp [kindOf, hgiven, hfield]
  | ok es =>
      have hv : schema.view = .map es := Value.entries_eq_ok_iff.mp hview
      have hlists : ((listedField schema).isTrue && isListable (typeField schema)) = false :=
        Bool.eq_false_iff.mpr fun hl => h ((Bool.and_eq_true _ _).mp hl)
      unfold listedField typeField at hlists
      simp only [kindOf, Value.field_of_view hv, Result.ok_bind, Bool.true_and, hlists,
        Bool.false_and]

/-- What a schema says tells its kind. -/
theorem Says.kindOf_eq (h : Says schema kind) : kindOf schema true = .ok kind := by
  by_cases habsent : kind = .absent
  · subst habsent
    cases h with
    | absent h => simp [kindOf, h]
  obtain ⟨⟨es, hv⟩, hgiven⟩ := h.exists_view habsent
  cases h with
  | absent h => exact absurd rfl habsent
  | enumeration h =>
      obtain ⟨hvalues, htype⟩ := h
      unfold listedField at hvalues
      unfold typeField at htype
      simp [kindOf, hgiven, Value.field_of_view hv, hvalues, htype]
  | reference hlisted href =>
      rw [kindOf_of_not_listsValues hlisted]
      simp [kindOf, hgiven, Value.field_of_view hv, Value.has_of_view hv, href]
  | wrapped hlisted href hinner =>
      rw [kindOf_of_not_listsValues hlisted]
      simp [kindOf, hgiven, Value.field_of_view hv, Value.has_of_view hv, href, hinner]
  | array hown htype hitems hmap =>
      unfold typeField at htype
      rw [kindOf_of_not_listsValues hown.notListed]
      simp [kindOf, hgiven, Value.field_of_view hv, Value.has_of_view hv, hown.noReference,
        hown.noInner, htype, hitems, hmap]
  | dictionary hown htype hfurther hobject =>
      unfold typeField at htype
      rw [kindOf_of_not_listsValues hown.notListed]
      simp [kindOf, hgiven, Value.field_of_view hv, Value.has_of_view hv, Value.fieldOr_of_view hv,
        hown.noReference, hown.noInner, htype, hfurther, hobject]
  | object hown htype hfurther =>
      unfold typeField at htype
      rw [kindOf_of_not_listsValues hown.notListed]
      simp [kindOf, hgiven, Value.field_of_view hv, Value.has_of_view hv, Value.fieldOr_of_view hv,
        hown.noReference, hown.noInner, htype, hfurther]
  | integer hown htype =>
      unfold typeField at htype
      rw [kindOf_of_not_listsValues hown.notListed]
      simp [kindOf, hgiven, Value.field_of_view hv, Value.has_of_view hv, hown.noReference,
        hown.noInner, htype]
  | date hown htype hformat =>
      unfold typeField at htype
      rw [kindOf_of_not_listsValues hown.notListed]
      simp [kindOf, hgiven, Value.field_of_view hv, Value.has_of_view hv, hown.noReference,
        hown.noInner, htype, hformat]
  | primitive hown _ _ htypes hformat =>
      rw [kindOf_of_not_listsValues hown.notListed]
      have hnot (name : String) (hname : name ∈ ["array", "object", "integer"]) :
          (typeField schema).isText (Text.ofString name) = false :=
        Bool.eq_false_iff.mpr fun htext => htypes name hname (Value.isText_iff.mp htext)
      have hdate : (typeField schema).isText (Text.ofString "string") = true →
          isDateFormat ((schema.get? "format").getD .null) = false :=
        fun hstring => hformat (Value.isText_iff.mp hstring)
      unfold typeField at hnot hdate
      simp [kindOf, hgiven, Value.field_of_view hv, Value.has_of_view hv, hown.noReference,
        hown.noInner, hnot]
      exact hdate

/-- **The kind of a schema is what it says.** -/
theorem kindOf_eq_ok_iff : kindOf schema true = .ok kind ↔ Says schema kind :=
  ⟨says_of_kindOf, Says.kindOf_eq⟩

/-- A schema says one thing. -/
theorem Says.unique {other : Kind} (h : Says schema kind) (h' : Says schema other) :
    kind = other :=
  Except.ok.inj (h.kindOf_eq.symm.trans h'.kindOf_eq)

/-! ### Elements of arrays -/

/-- The elements of an array do not say what they are. -/
def IsSilent (items : Value) : Prop :=
  items.get? "$ref" = none ∧ (typeField items).isTrue = false ∧ (listedField items).isTrue = false

/-- The elements of an array are a reference if they hold one, whatever else they say. -/
theorem elementKind_of_reference {target : Value} (h : items.get? "$ref" = some target) :
    elementKind items = .ok (some .reference) := by
  obtain ⟨es, hv⟩ := Value.exists_view_of_get? h
  simp [elementKind, Value.has_of_view hv, h]

/-- Elements that do not say what they are have no kind. -/
theorem elementKind_of_isSilent (hmap : items.isMap = true) (h : IsSilent items) :
    elementKind items = .ok none := by
  obtain ⟨es, hv⟩ := Value.isMap_iff.mp hmap
  obtain ⟨href, htype, hlisted⟩ := h
  unfold typeField at htype
  unfold listedField at hlisted
  simp [elementKind, Value.has_of_view hv, Value.field_of_view hv, href, htype, hlisted]

/-- Elements that hold no reference and say something are of the kind that they say. -/
theorem elementKind_of_not_isSilent (hmap : items.isMap = true)
    (href : items.get? "$ref" = none) (h : ¬ IsSilent items) :
    elementKind items = kindOf items true >>= fun kind => .ok (some kind) := by
  obtain ⟨es, hv⟩ := Value.isMap_iff.mp hmap
  have hspoken : (typeField items).isTrue = true ∨ (listedField items).isTrue = true := by
    by_contra hnone
    obtain ⟨htype, hlisted⟩ := not_or.mp hnone
    exact h ⟨href, by simpa using htype, by simpa using hlisted⟩
  unfold typeField listedField at hspoken
  simp [elementKind, Value.has_of_view hv, Value.field_of_view hv, href, hspoken]

end ClientScribe.Schema
