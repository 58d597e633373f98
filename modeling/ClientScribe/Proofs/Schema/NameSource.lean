import ClientScribe.Proofs.Schema.Refusal
import ClientScribe.Schema.DeclaredName

/-!
# What Schemas Are Named After

The name for the type of a schema is asked for in two ways: with brackets for the arrays in it, and
without them, as the name of their elements. `NamedAfter` follows a schema through what it wraps and
through the elements of arrays to what it is named after, and counts the arrays.

`nameOf_eq_or` says that the two names are those of one source. They differ in the brackets, which
are as many as there are arrays. Where one of them is refused, so is the other, by the same error;
this is so only of schemas that are nested too deeply or lead to no name.

Names do not show the values that a schema lists, so what a schema says is asked of it without them
(`unlisted`).
-/

namespace ClientScribe.Schema

open Api (lastSegment)
open Document (Value Entries lookup nestingLimit record)

variable {schema inner items : Value} {kind : Kind} {limit depth : Nat}

/-! ### Without listed values -/

/-- The schema without the values that it lists. -/
def unlisted (schema : Value) : Value :=
  match schema.view with
  | .map (e :: entries) => .map ((.str "enum", .null) :: e :: entries)
  | _ => schema

/-- A mapping with an entry gets one that says that nothing is listed; all else lists nothing. -/
theorem unlisted_cases (schema : Value) :
    (∃ e es, schema.view = .map (e :: es) ∧
      unlisted schema = .map ((.str "enum", .null) :: e :: es)) ∨
    unlisted schema = schema ∧ schema.get? "enum" = none := by
  cases hview : schema.view with
  | map entries =>
      cases entries with
      | nil => exact .inr ⟨by rw [unlisted, hview], by rw [Value.get?_of_view hview, lookup]⟩
      | cons e es => exact .inl ⟨e, es, rfl, by rw [unlisted, hview]⟩
  | _ => exact .inr ⟨by rw [unlisted, hview], by rw [Value.get?, hview]⟩

/-- Its other fields are those of the schema. -/
theorem get?_unlisted {k : Text} (hk : k ≠ "enum") : (unlisted schema).get? k = schema.get? k := by
  obtain ⟨e, es, hv, hunlisted⟩ | ⟨hunlisted, -⟩ := unlisted_cases schema
  · have hkey : (Value.str "enum").isText k = false := by
      simpa [Value.isText] using fun h => hk h.symm
    rw [hunlisted, Value.get?_of_view hv, Value.get?_of_view rfl, lookup, hkey]
    rfl
  · rw [hunlisted]

/-- Without its listed values a schema lists none. -/
theorem not_listsValues_unlisted (schema : Value) : ¬ ListsValues (unlisted schema) := by
  rintro ⟨hlisted, -⟩
  obtain ⟨e, es, -, hunlisted⟩ | ⟨hunlisted, hnone⟩ := unlisted_cases schema
  · rw [hunlisted] at hlisted
    cases hlisted
  · rw [hunlisted, listedField, hnone] at hlisted
    cases hlisted

/-- A mapping with an entry counts as given. -/
theorem isTrue_of_view_cons {e : Value × Value} {es : Entries}
    (hv : schema.view = .map (e :: es)) : schema.isTrue = true := by
  cases schema with
  | map entries =>
      obtain rfl := Value.map.inj hv
      rfl
  | looped ring id => rfl
  | _ => cases hv

/-- Without the values that it lists, a schema is of the kind that it is of if they do not count. -/
theorem kindOf_unlisted (schema : Value) : kindOf (unlisted schema) true = kindOf schema false := by
  rw [kindOf_of_not_listsValues (not_listsValues_unlisted schema)]
  obtain ⟨e, es, hv, hunlisted⟩ | ⟨hunlisted, -⟩ := unlisted_cases schema
  · have hgiven : (unlisted schema).isTrue = true := by
      rw [hunlisted]
      rfl
    have hv' : (unlisted schema).view = .map ((.str "enum", .null) :: e :: es) := by
      rw [hunlisted]
      rfl
    -- all fields that are asked for are those of the schema
    simp only [kindOf, hgiven, isTrue_of_view_cons hv, Value.field_of_view hv,
      Value.field_of_view hv', Value.has_of_view hv, Value.has_of_view hv',
      Value.fieldOr_of_view hv, Value.fieldOr_of_view hv', Bool.false_and, Result.ok_bind,
      get?_unlisted (by decide : Text.ofString "type" ≠ "enum"),
      get?_unlisted (by decide : Text.ofString "$ref" ≠ "enum"),
      get?_unlisted (by decide : Text.ofString "schema" ≠ "enum"),
      get?_unlisted (by decide : Text.ofString "items" ≠ "enum"),
      get?_unlisted (by decide : Text.ofString "additionalProperties" ≠ "enum"),
      get?_unlisted (by decide : Text.ofString "format" ≠ "enum")]
  · rw [hunlisted]

/-- **The kind of a schema where listed values do not count.** -/
theorem kindOf_false_eq_ok_iff : kindOf schema false = .ok kind ↔ Says (unlisted schema) kind := by
  rw [← kindOf_unlisted, kindOf_eq_ok_iff]

/-- Without the values that it lists, a schema is of another kind than by them. -/
theorem ne_enumeration_of_unlisted (h : Says (unlisted schema) kind) : kind ≠ .enumeration := by
  rintro rfl
  cases h with
  | enumeration hlists => exact not_listsValues_unlisted schema hlists

/-- A schema has the field that goes with what it says. -/
theorem hasFieldOf_of_unlisted (hs : Says (unlisted schema) kind) : HasFieldOf schema kind := by
  cases hs with
  | enumeration h => exact absurd h (not_listsValues_unlisted schema)
  | reference _ href =>
      exact hasFieldOf_of_ne rfl ((get?_unlisted (by decide)).symm.trans href) (by decide)
  | wrapped _ _ hinner =>
      exact hasFieldOf_of_ne rfl ((get?_unlisted (by decide)).symm.trans hinner) (by decide)
  | array _ _ hitems hmap =>
      exact hasFieldOf rfl ((get?_unlisted (by decide)).symm.trans hitems) fun _ => hmap
  | dictionary _ _ hfurther =>
      exact hasFieldOf_of_ne rfl ((get?_unlisted (by decide)).symm.trans hfurther) (by decide)
  | _ => exact hasFieldOf_of_none rfl

/-! ### Sources -/

/-- What a schema is named after. -/
inductive NameSource where
  /-- Nothing in the schema. -/
  | fallback
  | reference (target : Text)
  | integer
  | date

/-- The name that a source gives. -/
def NameSource.name (fallback : Text) : NameSource → Text
  | .fallback => fallback
  | .reference target => lastSegment target
  | .integer => "number"
  | .date => "date"

/-- The elements of an array are neither a reference nor of a type. -/
def IsUntyped (items : Value) : Prop :=
  items.get? "$ref" = none ∧ (typeField items).isTrue = false

/-- A schema leads through some arrays to what it is named after. -/
inductive NamedAfter : Value → Nat → NameSource → Prop
  | reference {schema : Value} {target : Text} (hs : Says (unlisted schema) .reference)
      (href : schema.get? "$ref" = some (.str target)) : NamedAfter schema 0 (.reference target)
  | wrapped {schema inner : Value} {depth : Nat} {source : NameSource}
      (hs : Says (unlisted schema) .wrapped) (hinner : schema.get? "schema" = some inner)
      (h : NamedAfter inner depth source) : NamedAfter schema depth source
  | array {schema items : Value} {depth : Nat} {source : NameSource}
      (hs : Says (unlisted schema) .array) (hitems : schema.get? "items" = some items)
      (htyped : ¬ IsUntyped items) (h : NamedAfter items depth source) :
      NamedAfter schema (depth + 1) source
  /-- Elements without a type give no name, whatever they wrap. -/
  | arrayOfUntyped {schema items : Value} (hs : Says (unlisted schema) .array)
      (hitems : schema.get? "items" = some items) (huntyped : IsUntyped items) :
      NamedAfter schema 1 .fallback
  | integer {schema : Value} (hs : Says (unlisted schema) .integer) : NamedAfter schema 0 .integer
  | date {schema : Value} (hs : Says (unlisted schema) .date) : NamedAfter schema 0 .date
  | nameless {schema : Value} {kind : Kind} (hs : Says (unlisted schema) kind)
      (hkind : kind ∈ [Kind.absent, .dictionary, .object, .primitive]) :
      NamedAfter schema 0 .fallback

variable {source : NameSource}

/-- What a schema of a kind is named after, by what its parts are named after. -/
def IsSource (schema : Value) (depth : Nat) (source : NameSource) : Kind → Prop
  | .reference => ∃ target, schema.get? "$ref" = some (.str target) ∧ depth = 0 ∧
      source = .reference target
  | .wrapped => ∃ inner, schema.get? "schema" = some inner ∧ NamedAfter inner depth source
  | .array => ∃ items, schema.get? "items" = some items ∧
      (IsUntyped items ∧ depth = 1 ∧ source = .fallback ∨
        ¬ IsUntyped items ∧ ∃ d, depth = d + 1 ∧ NamedAfter items d source)
  | .integer => depth = 0 ∧ source = .integer
  | .date => depth = 0 ∧ source = .date
  | _ => depth = 0 ∧ source = .fallback

/-- What a schema is named after goes by its kind. -/
theorem namedAfter_iff (hs : Says (unlisted schema) kind) :
    NamedAfter schema depth source ↔ IsSource schema depth source kind := by
  constructor
  · intro h
    cases h with
    | reference hs' href =>
        obtain rfl := hs.unique hs'
        exact ⟨_, href, rfl, rfl⟩
    | wrapped hs' hinner h =>
        obtain rfl := hs.unique hs'
        exact ⟨_, hinner, h⟩
    | array hs' hitems htyped h =>
        obtain rfl := hs.unique hs'
        exact ⟨_, hitems, .inr ⟨htyped, _, rfl, h⟩⟩
    | arrayOfUntyped hs' hitems huntyped =>
        obtain rfl := hs.unique hs'
        exact ⟨_, hitems, .inl ⟨huntyped, rfl, rfl⟩⟩
    | integer hs' =>
        obtain rfl := hs.unique hs'
        exact ⟨rfl, rfl⟩
    | date hs' =>
        obtain rfl := hs.unique hs'
        exact ⟨rfl, rfl⟩
    | nameless hs' hkind =>
        obtain rfl := hs.unique hs'
        simp only [List.mem_cons, List.not_mem_nil, or_false] at hkind
        rcases hkind with rfl | rfl | rfl | rfl
        all_goals exact ⟨rfl, rfl⟩
  · intro h
    cases kind with
    | enumeration => exact absurd rfl (ne_enumeration_of_unlisted hs)
    | reference =>
        obtain ⟨target, href, rfl, rfl⟩ := h
        exact .reference hs href
    | wrapped =>
        obtain ⟨inner, hinner, h⟩ := h
        exact .wrapped hs hinner h
    | array =>
        obtain ⟨items, hitems, ⟨huntyped, rfl, rfl⟩ | ⟨htyped, d, rfl, h⟩⟩ := h
        · exact .arrayOfUntyped hs hitems huntyped
        · exact .array hs hitems htyped h
    | integer =>
        obtain ⟨rfl, rfl⟩ := h
        exact .integer hs
    | date =>
        obtain ⟨rfl, rfl⟩ := h
        exact .date hs
    | _ =>
        obtain ⟨rfl, rfl⟩ := h
        exact .nameless hs (by decide)

/-- What is named after something says something. -/
theorem NamedAfter.exists_kind (h : NamedAfter schema depth source) :
    ∃ kind, Says (unlisted schema) kind := by
  cases h with
  | reference hs | wrapped hs | array hs | arrayOfUntyped hs | integer hs | date hs | nameless hs =>
      exact ⟨_, hs⟩

/-! ### Both names -/

/-- The outcomes for the two names of a schema: they are those of one source, or refused by the same
error. -/
inductive NamedAlike (limit : Nat) (schema : Value) (outcome : Text → Bool → Result Text) : Prop
  | named {depth : Nat} {source : NameSource}
      (hsource : ∀ d s, NamedAfter schema d s ↔ d = depth ∧ s = source)
      (helements : ∀ fallback, outcome fallback true = .ok (source.name fallback))
      (hname : ∀ fallback, outcome fallback false = .ok (source.name fallback ++ brackets depth))
  | refused {e : Error} (hcause : IsNestedTo limit schema ∨ ∀ d s, ¬ NamedAfter schema d s)
      (h : ∀ fallback ofElements, outcome fallback ofElements = .error e)

variable {outcome : Text → Bool → Result Text}

/-- What is no array is named alike if its name does not depend on the brackets. -/
theorem namedAlike_leaf (source : NameSource) (hs : Says (unlisted schema) kind)
    (hkind : ∀ d s, IsSource schema d s kind ↔ d = 0 ∧ s = source)
    (h : ∀ fallback ofElements, outcome fallback ofElements = .ok (source.name fallback)) :
    NamedAlike limit schema outcome :=
  .named (fun d s => (namedAfter_iff hs).trans (hkind d s)) (fun _ => h _ _)
    (fun _ => by rw [h, brackets, List.replicate_zero, List.flatten_nil, List.append_nil])

/-- What a schema wraps gives it its names. -/
theorem NamedAlike.wrapped (h : NamedAlike limit inner outcome)
    (hs : Says (unlisted schema) .wrapped) (hinner : schema.get? "schema" = some inner) :
    NamedAlike (limit + 1) schema outcome := by
  have hiff (d : Nat) (s : NameSource) : NamedAfter schema d s ↔ NamedAfter inner d s := by
    rw [namedAfter_iff hs, IsSource, hinner]
    exact ⟨fun ⟨_, heq, h⟩ => Option.some.inj heq ▸ h, fun h => ⟨_, rfl, h⟩⟩
  cases h with
  | named hsource helements hname =>
      exact .named (fun d s => (hiff d s).trans (hsource d s)) helements hname
  | refused hcause h =>
      refine .refused (hcause.imp (.succ (k := "schema") (by decide) hinner) ?_) h
      exact fun hnone d s hnamed => hnone d s ((hiff d s).mp hnamed)

/-- The elements of an array give it its names, with one more pair of brackets. -/
theorem NamedAlike.array (h : NamedAlike limit items outcome) (hs : Says (unlisted schema) .array)
    (hitems : schema.get? "items" = some items) (htyped : ¬ IsUntyped items) :
    NamedAlike (limit + 1) schema fun fallback ofElements => do
      return (← outcome fallback ofElements) ++ if ofElements then [] else "[]" := by
  have hiff (d : Nat) (s : NameSource) :
      NamedAfter schema d s ↔ ∃ d', d = d' + 1 ∧ NamedAfter items d' s := by
    rw [namedAfter_iff hs, IsSource, hitems]
    constructor
    · rintro ⟨_, heq, ⟨huntyped, -⟩ | ⟨-, h⟩⟩
      · exact absurd (Option.some.inj heq ▸ huntyped) htyped
      · exact Option.some.inj heq ▸ h
    · exact fun h => ⟨_, rfl, .inr ⟨htyped, h⟩⟩
  cases h with
  | @named depth source hsource helements hname =>
      have hsource' (d : Nat) (s : NameSource) :
          NamedAfter schema d s ↔ d = depth + 1 ∧ s = source := by
        rw [hiff]
        constructor
        · rintro ⟨d', rfl, h⟩
          obtain ⟨rfl, rfl⟩ := (hsource d' s).mp h
          exact ⟨rfl, rfl⟩
        · rintro ⟨rfl, rfl⟩
          exact ⟨depth, rfl, (hsource depth s).mpr ⟨rfl, rfl⟩⟩
      refine .named hsource' (fun fallback => ?_) (fun fallback => ?_)
      · simp [helements]
      · simp [hname, brackets_succ]
  | @refused e hcause h =>
      have hcause' : IsNestedTo (limit + 1) schema ∨ ∀ d s, ¬ NamedAfter schema d s := by
        refine hcause.imp (.succ (k := "items") (by decide) hitems) fun hnone d s hnamed => ?_
        obtain ⟨d', -, hitem⟩ := (hiff d s).mp hnamed
        exact hnone d' s hitem
      exact .refused (e := e) hcause' fun _ _ => by rw [h, Result.error_bind]

/-- A reference is named by what it says, which has to be a text. -/
theorem namedAlike_reference (hs : Says (unlisted schema) .reference) :
    NamedAlike limit schema fun _ _ => schema.demand "$ref" >>= Api.referenceName := by
  obtain ⟨target, href, -⟩ := hasFieldOf_of_unlisted hs "$ref" rfl
  have hiff (d : Nat) (s : NameSource) : NamedAfter schema d s ↔
      ∃ text, target = .str text ∧ d = 0 ∧ s = .reference text := by
    rw [namedAfter_iff hs, IsSource, href]
    simp only [Option.some.injEq]
  simp only [Value.demand_eq_ok_iff.mpr href, Result.ok_bind, Api.referenceName]
  cases htext : target.asText with
  | ok text =>
      obtain rfl := Value.asText_eq_ok_iff.mp htext
      refine namedAlike_leaf (.reference text) hs (fun d s => ?_) fun _ _ => rfl
      rw [← namedAfter_iff hs, hiff]
      simp
  | error e =>
      refine .refused (e := e) (.inr fun d s h => ?_) fun _ _ => rfl
      obtain ⟨text, rfl, -⟩ := (hiff d s).mp h
      cases htext

/-- An array is named by its elements if they are a reference or of a type. -/
theorem namedAlike_array (hs : Says (unlisted schema) .array)
    (ih : ∀ items, NamedAlike limit items fun fallback ofElements =>
      nameWithin fallback ofElements limit items) :
    NamedAlike (limit + 1) schema fun fallback ofElements =>
      nameWithin fallback ofElements (limit + 1) schema := by
  obtain ⟨items, hitems, hmap⟩ := hasFieldOf_of_unlisted hs "items" rfl
  obtain ⟨es, hv⟩ := Value.isMap_iff.mp (hmap rfl)
  have htype : items.field "type" = .ok (typeField items) := Value.field_of_view hv
  simp only [nameWithin, kindOf_false_eq_ok_iff.mpr hs, Value.demand_eq_ok_iff.mpr hitems,
    Value.has_of_view hv, htype, Result.ok_bind]
  cases href : items.get? "$ref" with
  | some target =>
      have hreference : Says (unlisted items) .reference :=
        .reference (not_listsValues_unlisted items) ((get?_unlisted (by decide)).trans href)
      have htyped : ¬ IsUntyped items := fun huntyped => by simp [huntyped.1] at href
      simp only [Option.isSome_some, if_true, ← bind_assoc]
      exact (namedAlike_reference hreference).array hs hitems htyped
  | none =>
      by_cases htyped : (typeField items).isTrue = true
      · simp only [Option.isSome_none, Bool.false_eq_true, if_false, if_pos htyped]
        exact (ih items).array hs hitems fun huntyped => by simp [huntyped.2] at htyped
      · have huntyped : IsUntyped items := ⟨href, by simpa using htyped⟩
        simp only [Option.isSome_none, Bool.false_eq_true, if_false, if_neg htyped]
        have hsource (d : Nat) (s : NameSource) :
            NamedAfter schema d s ↔ d = 1 ∧ s = .fallback := by
          rw [namedAfter_iff hs, IsSource, hitems]
          simp [huntyped]
        refine .named hsource (fun fallback => ?_) (fun fallback => ?_)
        · simp [NameSource.name]
        · simp [NameSource.name, brackets]

/-- **The two names of a schema are those of one source.** -/
theorem namedAlike_nameWithin (limit : Nat) (schema : Value) :
    NamedAlike limit schema fun fallback ofElements =>
      nameWithin fallback ofElements limit schema := by
  induction limit generalizing schema with
  | zero => exact .refused (.inl .zero) fun _ _ => rfl
  | succ limit ih =>
      cases hkind : kindOf schema false with
      | error e =>
          refine .refused (e := e) (.inr fun d s h => ?_) fun _ _ => ?_
          · obtain ⟨kind, hs⟩ := h.exists_kind
            rw [kindOf_false_eq_ok_iff.mpr hs] at hkind
            cases hkind
          · rw [nameWithin, hkind, Result.error_bind]
      | ok kind =>
          have hs : Says (unlisted schema) kind := kindOf_false_eq_ok_iff.mp hkind
          cases kind with
          | enumeration => exact absurd rfl (ne_enumeration_of_unlisted hs)
          | reference =>
              simp only [nameWithin, hkind, Result.ok_bind]
              exact namedAlike_reference hs
          | wrapped =>
              obtain ⟨inner, hinner, -⟩ := hasFieldOf_of_unlisted hs "schema" rfl
              simp only [nameWithin, hkind, Value.demand_eq_ok_iff.mpr hinner, Result.ok_bind]
              exact (ih inner).wrapped hs hinner
          | array => exact namedAlike_array hs ih
          | integer =>
              exact namedAlike_leaf .integer hs (fun _ _ => Iff.rfl) fun _ _ => by
                rw [nameWithin, hkind]; rfl
          | date =>
              exact namedAlike_leaf .date hs (fun _ _ => Iff.rfl) fun _ _ => by
                rw [nameWithin, hkind]; rfl
          | _ =>
              exact namedAlike_leaf .fallback hs (fun _ _ => Iff.rfl) fun _ _ => by
                rw [nameWithin, hkind]; rfl

/-- **A name with brackets and the name of the elements.** For every schema both are refused by the
same error, or the schema leads to one source through some arrays, and they are the name of the
source with as many pairs of brackets and without. Only a schema that is nested too deeply or leads
to no source is refused. -/
theorem nameOf_eq_or (schema : Value) :
    (∃ e, (∀ fallback ofElements, nameOf schema fallback ofElements = .error e) ∧
      (IsNestedTo nestingLimit schema ∨ ∀ depth source, ¬ NamedAfter schema depth source)) ∨
    ∃ depth source, (∀ d s, NamedAfter schema d s ↔ d = depth ∧ s = source) ∧
      ∀ fallback, nameOf schema fallback true = .ok (source.name fallback) ∧
        nameOf schema fallback false = .ok (source.name fallback ++ brackets depth) := by
  cases namedAlike_nameWithin nestingLimit schema with
  | refused hcause h => exact .inl ⟨_, h, hcause⟩
  | named hsource helements hname =>
      exact .inr ⟨_, _, hsource, fun fallback => ⟨helements fallback, hname fallback⟩⟩

/-- Rows of rows of pets, as the content of a body. -/
example :
    let pets := record [("type", .str "array"), ("items", record [("type", .str "array"),
      ("items", record [("$ref", .str "#/components/schemas/Pet")])])]
    nameOf (record [("schema", pets)]) "findPets_response" false = .ok (Text.ofString "Pet[][]") :=
  rfl

end ClientScribe.Schema
