import ClientScribe.Proofs.Schema.Kind

/-!
# What Schemas Describe

A schema describes data: any value at all, one of certain values, the elements of an array, and so
on. `Describes` says which, by recursion on the schema, and says nothing of how it is written. A
schema describes one type of data at most (`Describes.unique`).

The type expression of a schema expresses what the schema describes (`exists_of_typeWithin`). It
does so with parentheses around listed values that are elements of an array, so long as the elements
are not wrapped: wrapped elements are expressed as what is inside, without parentheses.
-/

namespace ClientScribe.Schema

open Api (lastSegment)
open Document (Value Entries record)

variable {schema : Value} {qualified : Bool} {e : TypeExpr}

/-! ### Schemas inside a schema -/

/-- A schema is the other one, or stands in what it wraps, in its elements, or in its further
fields. -/
inductive Inside (node : Value) : Value → Prop
  | self : Inside node node
  | within {schema part : Value} {k : String} (hk : k ∈ ["schema", "items", "additionalProperties"])
      (hpart : schema.get? (Text.ofString k) = some part) (h : Inside node part) :
      Inside node schema

/-- No elements of an array wrap a schema, here or inside. -/
def WrapsNoElements (schema : Value) : Prop :=
  ∀ node, Inside node schema → ∀ items, node.get? "items" = some items →
    items.get? "schema" = none

/-- What holds of all schemas inside a schema holds of all those inside a part of it. -/
theorem forall_inside_of_part {P : Value → Prop} {part : Value} {k : String}
    (h : ∀ node, Inside node schema → P node)
    (hk : k ∈ ["schema", "items", "additionalProperties"])
    (hpart : schema.get? (Text.ofString k) = some part) : ∀ node, Inside node part → P node :=
  fun node hnode => h node (.within hk hpart hnode)

/-- What holds of a schema and of all schemas inside its parts holds of all those inside it. -/
theorem forall_inside {P : Value → Prop} (parts : List Value)
    (hparts : ["schema", "items", "additionalProperties"].filterMap
      (fun k => schema.get? (Text.ofString k)) = parts)
    (hself : P schema) (h : ∀ part ∈ parts, ∀ node, Inside node part → P node) :
    ∀ node, Inside node schema → P node := by
  rintro node (_ | ⟨hk, hpart, hnode⟩)
  · exact hself
  · exact h _ (hparts ▸ List.mem_filterMap.mpr ⟨_, hk, hpart⟩) node hnode

/-! ### Data -/

/-- What a schema describes. -/
inductive DataType where
  /-- Any value. -/
  | any
  /-- One of the values with these texts, which are numbers or not. -/
  | oneOf (texts : List Text) (numbers : Bool)
  /-- What the schema of this name describes. -/
  | named (name : Text)
  | array (elements : DataType)
  /-- An object with any keys. -/
  | dictionary (values : DataType)
  | number
  | date
  /-- What the type says that the schema gives. -/
  | given (type : Value)

/-- A schema describes data of this type. -/
inductive Describes : Value → DataType → Prop
  | absent {schema : Value} (hs : Says schema .absent) : Describes schema .any
  | enumeration {schema : Value} {members : List Value} {texts : List Text}
      (hs : Says schema .enumeration) (hmembers : (listedField schema).members = .ok members)
      (htexts : members.mapM Value.text = .ok texts) :
      Describes schema (.oneOf texts ((typeField schema).isText "number"))
  | reference {schema : Value} {target : Text} (hs : Says schema .reference)
      (href : schema.get? "$ref" = some (.str target)) :
      Describes schema (.named (lastSegment target))
  | wrapped {schema inner : Value} {t : DataType} (hs : Says schema .wrapped)
      (hinner : schema.get? "schema" = some inner) (ht : Describes inner t) : Describes schema t
  /-- Elements that hold a reference are what it leads to, even if they list values. -/
  | arrayOfNamed {schema items : Value} {target : Text} (hs : Says schema .array)
      (hitems : schema.get? "items" = some items)
      (href : items.get? "$ref" = some (.str target)) :
      Describes schema (.array (.named (lastSegment target)))
  /-- Elements that do not say what they are can be anything, even if they wrap a schema. -/
  | arrayOfAny {schema items : Value} (hs : Says schema .array)
      (hitems : schema.get? "items" = some items) (hsilent : IsSilent items) :
      Describes schema (.array .any)
  | array {schema items : Value} {t : DataType} (hs : Says schema .array)
      (hitems : schema.get? "items" = some items) (href : items.get? "$ref" = none)
      (hspoken : ¬ IsSilent items) (ht : Describes items t) : Describes schema (.array t)
  | dictionary {schema further : Value} {t : DataType} (hs : Says schema .dictionary)
      (hfurther : schema.get? "additionalProperties" = some further)
      (hmap : further.isMap = true) (ht : Describes further t) : Describes schema (.dictionary t)
  | dictionaryOfAny {schema further : Value} (hs : Says schema .dictionary)
      (hfurther : schema.get? "additionalProperties" = some further)
      (hmap : further.isMap = false) : Describes schema (.dictionary .any)
  | object {schema : Value} (hs : Says schema .object) : Describes schema .any
  | integer {schema : Value} (hs : Says schema .integer) : Describes schema .number
  | date {schema : Value} (hs : Says schema .date) : Describes schema .date
  | given {schema : Value} (hs : Says schema .primitive)
      (htype : (typeField schema).isTrue = true) : Describes schema (.given (typeField schema))
  | untyped {schema : Value} (hs : Says schema .primitive)
      (htype : (typeField schema).isTrue = false) : Describes schema .any

/-- A schema describes one type of data. -/
theorem Describes.unique {t t' : DataType} (h : Describes schema t) (h' : Describes schema t') :
    t = t' := by
  -- two clauses of different kinds cannot both hold, and each clause settles the type
  induction h generalizing t' with
  | absent hs =>
      cases h' with
      | absent => rfl
      | _ => exact absurd (hs.unique (by assumption)) (by decide)
  | enumeration hs hmembers htexts =>
      cases h' with
      | enumeration _ hmembers' htexts' =>
          obtain rfl := Except.ok.inj (hmembers.symm.trans hmembers')
          obtain rfl := Except.ok.inj (htexts.symm.trans htexts')
          rfl
      | _ => exact absurd (hs.unique (by assumption)) (by decide)
  | reference hs href =>
      cases h' with
      | reference _ href' =>
          obtain rfl := Value.str.inj (Option.some.inj (href.symm.trans href'))
          rfl
      | _ => exact absurd (hs.unique (by assumption)) (by decide)
  | wrapped hs hinner _ ih =>
      cases h' with
      | wrapped _ hinner' ht' =>
          obtain rfl := Option.some.inj (hinner.symm.trans hinner')
          exact ih ht'
      | _ => exact absurd (hs.unique (by assumption)) (by decide)
  | arrayOfNamed hs hitems href =>
      cases h' with
      | arrayOfNamed _ hitems' href' =>
          obtain rfl := Option.some.inj (hitems.symm.trans hitems')
          obtain rfl := Value.str.inj (Option.some.inj (href.symm.trans href'))
          rfl
      | arrayOfAny _ hitems' hsilent =>
          obtain rfl := Option.some.inj (hitems.symm.trans hitems')
          cases href.symm.trans hsilent.1
      | array _ hitems' href' =>
          obtain rfl := Option.some.inj (hitems.symm.trans hitems')
          cases href.symm.trans href'
      | _ => exact absurd (hs.unique (by assumption)) (by decide)
  | arrayOfAny hs hitems hsilent =>
      cases h' with
      | arrayOfNamed _ hitems' href' =>
          obtain rfl := Option.some.inj (hitems.symm.trans hitems')
          cases href'.symm.trans hsilent.1
      | arrayOfAny => rfl
      | array _ hitems' _ hspoken =>
          obtain rfl := Option.some.inj (hitems.symm.trans hitems')
          exact absurd hsilent hspoken
      | _ => exact absurd (hs.unique (by assumption)) (by decide)
  | array hs hitems href hspoken _ ih =>
      cases h' with
      | arrayOfNamed _ hitems' href' =>
          obtain rfl := Option.some.inj (hitems.symm.trans hitems')
          cases href'.symm.trans href
      | arrayOfAny _ hitems' hsilent =>
          obtain rfl := Option.some.inj (hitems.symm.trans hitems')
          exact absurd hsilent hspoken
      | array _ hitems' _ _ ht' =>
          obtain rfl := Option.some.inj (hitems.symm.trans hitems')
          rw [ih ht']
      | _ => exact absurd (hs.unique (by assumption)) (by decide)
  | dictionary hs hfurther hmap _ ih =>
      cases h' with
      | dictionary _ hfurther' _ ht' =>
          obtain rfl := Option.some.inj (hfurther.symm.trans hfurther')
          rw [ih ht']
      | dictionaryOfAny _ hfurther' hmap' =>
          obtain rfl := Option.some.inj (hfurther.symm.trans hfurther')
          simp [hmap] at hmap'
      | _ => exact absurd (hs.unique (by assumption)) (by decide)
  | dictionaryOfAny hs hfurther hmap =>
      cases h' with
      | dictionary _ hfurther' hmap' =>
          obtain rfl := Option.some.inj (hfurther.symm.trans hfurther')
          simp [hmap] at hmap'
      | dictionaryOfAny => rfl
      | _ => exact absurd (hs.unique (by assumption)) (by decide)
  | object hs =>
      cases h' with
      | object => rfl
      | _ => exact absurd (hs.unique (by assumption)) (by decide)
  | integer hs =>
      cases h' with
      | integer => rfl
      | _ => exact absurd (hs.unique (by assumption)) (by decide)
  | date hs =>
      cases h' with
      | date => rfl
      | _ => exact absurd (hs.unique (by assumption)) (by decide)
  | given hs htype =>
      cases h' with
      | given => rfl
      | untyped _ htype' => simp [htype] at htype'
      | _ => exact absurd (hs.unique (by assumption)) (by decide)
  | untyped hs htype =>
      cases h' with
      | given _ htype' => simp [htype] at htype'
      | untyped => rfl
      | _ => exact absurd (hs.unique (by assumption)) (by decide)

/-- Listed values beside a reference. On their own they are the values, and as the elements of an
array they are the reference. -/
def listedReference : Value :=
  record [("enum", .list [.str "a"]), ("$ref", .str "#/components/schemas/Pet")]

/-- An array of them. -/
def listedReferences : Value :=
  record [("type", .str "array"), ("items", listedReference)]

/-- Listed values beside a reference are an enumeration of them. -/
theorem says_listedReference : Says listedReference .enumeration := says_of_kindOf rfl

/-- An array of such elements is an array. -/
theorem says_listedReferences : Says listedReferences .array := says_of_kindOf rfl

/-! ### Type expressions -/

/-- The literals of values with these texts. -/
def literalTexts (texts : List Text) (numbers : Bool) : List Text :=
  if numbers then texts else texts.map quotedLiteral

/-- A type expression stands for data of this type, whatever parentheses it has. -/
inductive Expresses (qualified : Bool) : TypeExpr → DataType → Prop
  | any : Expresses qualified (.word "any") .any
  | oneOf (texts : List Text) (numbers : Bool) :
      Expresses qualified (.union (literalTexts texts numbers)) (.oneOf texts numbers)
  | named (name : Text) : Expresses qualified (.declared name qualified) (.named name)
  | array {e : TypeExpr} {t : DataType} (h : Expresses qualified e t) :
      Expresses qualified (.array e) (.array t)
  | group {e : TypeExpr} {t : DataType} (h : Expresses qualified e t) :
      Expresses qualified (.group e) t
  | dictionary {e : TypeExpr} {t : DataType} (h : Expresses qualified e t) :
      Expresses qualified (.dictionary e) (.dictionary t)
  | number : Expresses qualified (.word "number") .number
  | date : Expresses qualified (.word "Date") .date
  | given (type : Value) : Expresses qualified (.given type) (.given type)

namespace TypeExpr

/-- The expression is a bare union. -/
def isUnion : TypeExpr → Bool
  | union _ => true
  | _ => false

/-- No array in the expression has a bare union for its elements. -/
def isGrouped : TypeExpr → Bool
  | array element => !element.isUnion && element.isGrouped
  | group type => type.isGrouped
  | dictionary element => element.isGrouped
  | _ => true

end TypeExpr

/-- Only a schema that lists its values, or wraps one, is expressed as a bare union. -/
theorem says_of_isUnion {t : DataType} (ht : Describes schema t) (h : Expresses qualified e t)
    (hunion : e.isUnion = true) : Says schema .enumeration ∨ Says schema .wrapped := by
  cases h with
  | oneOf texts numbers =>
      cases ht with
      | enumeration hs => exact .inl hs
      | wrapped hs => exact .inr hs
  | _ => cases hunion

/-- The declared type that a schema refers to is named by its reference. -/
theorem declaredBy_eq_ok_iff : declaredBy schema qualified = .ok e ↔
    ∃ target, schema.get? "$ref" = some (.str target) ∧
      e = .declared (lastSegment target) qualified := by
  have htext (v : Value) (s : Text) : v.asText = .ok s ↔ v = .str s := by
    cases v <;> simp [Value.asText, Document.misfit]
  simp only [declaredBy, Api.referenceName, Result.bind_eq_ok_iff, Value.demand_eq_ok_iff, htext,
    Result.pure_def, Except.ok.injEq]
  constructor
  · rintro ⟨_, href, _, ⟨target, rfl, rfl⟩, rfl⟩
    exact ⟨target, href, rfl⟩
  · rintro ⟨target, href, rfl⟩
    exact ⟨_, href, _, ⟨target, rfl, rfl⟩, rfl⟩

/-- The type of an array, by its elements: a reference comes first, then whether they say anything.
Listed values are put in parentheses. -/
theorem exists_items_of_typeWithin {limit : Nat} (hs : Says schema .array)
    (h : typeWithin qualified (limit + 1) schema = .ok e) :
    ∃ items, schema.get? "items" = some items ∧ items.isMap = true ∧
      ((∃ target, items.get? "$ref" = some (.str target) ∧
          e = .array (.declared (lastSegment target) qualified)) ∨
        (IsSilent items ∧ e = .array (.word "any")) ∨
        (items.get? "$ref" = none ∧ ¬ IsSilent items ∧
          ∃ element, typeWithin qualified limit items = .ok element ∧
            (Says items .enumeration ∧ e = .array (.group element) ∨
              ¬ Says items .enumeration ∧ e = .array element))) := by
  rw [typeWithin, hs.kindOf_eq, Result.ok_bind] at h
  simp only [Result.bind_eq_ok_iff, Value.demand_eq_ok_iff] at h
  obtain ⟨items, hitems, elements, helements, h⟩ := h
  have hmap : items.isMap = true := by
    cases hs with
    | array _ _ hitems' hmap => exact Option.some.inj (hitems.symm.trans hitems') ▸ hmap
  refine ⟨items, hitems, hmap, ?_⟩
  cases href : items.get? "$ref" with
  | some target =>
      obtain rfl := Except.ok.inj (helements.symm.trans (elementKind_of_reference href))
      obtain ⟨element, helement, h⟩ := Result.bind_eq_ok_iff.mp h
      obtain ⟨target', href', rfl⟩ := declaredBy_eq_ok_iff.mp helement
      obtain rfl := Except.ok.inj h
      exact .inl ⟨target', href.symm.trans href', rfl⟩
  | none =>
      by_cases hsilent : IsSilent items
      · obtain rfl :=
          Except.ok.inj (helements.symm.trans (elementKind_of_isSilent hmap hsilent))
        obtain rfl := Except.ok.inj h
        exact .inr (.inl ⟨hsilent, rfl⟩)
      · rw [elementKind_of_not_isSilent hmap href hsilent] at helements
        obtain ⟨kind, hkind, helements⟩ := Result.bind_eq_ok_iff.mp helements
        obtain rfl := Except.ok.inj helements
        have hspoken : Says items kind := says_of_kindOf hkind
        refine .inr (.inr ⟨rfl, hsilent, ?_⟩)
        split at h
        · next heq =>
          obtain rfl := Option.some.inj heq
          cases hspoken with
          | reference _ href' => cases href.symm.trans href'
        · next heq =>
          obtain rfl := Option.some.inj heq
          obtain ⟨element, helement, h⟩ := Result.bind_eq_ok_iff.mp h
          obtain rfl := Except.ok.inj h
          exact ⟨element, helement, .inl ⟨hspoken, rfl⟩⟩
        · next heq => cases heq
        · next hne heq =>
          obtain ⟨element, helement, h⟩ := Result.bind_eq_ok_iff.mp h
          obtain rfl := Except.ok.inj h
          refine ⟨element, helement, .inr ⟨fun hlists => ?_, rfl⟩⟩
          exact hne ((Option.some.inj heq).symm.trans (hspoken.unique hlists))

/-- **The type of a schema expresses what the schema describes.** Unless the elements of an array
wrap a schema, no array has a bare union for its elements. -/
theorem exists_of_typeWithin {limit : Nat} (h : typeWithin qualified limit schema = .ok e) :
    ∃ t, Describes schema t ∧ Expresses qualified e t ∧
      (WrapsNoElements schema → e.isGrouped = true) := by
  induction limit generalizing schema e with
  | zero => cases h
  | succ limit ih =>
      have hwithin := h
      simp only [typeWithin, Result.bind_eq_ok_iff] at h
      obtain ⟨kind, hkind, h⟩ := h
      have hs : Says schema kind := says_of_kindOf hkind
      cases kind with
      | absent =>
          obtain rfl := Except.ok.inj h
          exact ⟨.any, .absent hs, .any, fun _ => rfl⟩
      | enumeration =>
          simp only [Result.bind_eq_ok_iff, Value.demand_eq_ok_iff, Value.field_eq_ok_iff,
            literals, Result.pure_def, Except.ok.injEq] at h
          obtain ⟨values, hvalues, _, ⟨-, rfl⟩, _, ⟨members, hmembers, texts, htexts, rfl⟩, rfl⟩ :=
            h
          have hlisted : listedField schema = values := by simp [listedField, hvalues]
          refine ⟨_, .enumeration hs (hlisted ▸ hmembers) htexts, ?_, fun _ => rfl⟩
          exact .oneOf texts _
      | reference =>
          obtain ⟨target, href, rfl⟩ := declaredBy_eq_ok_iff.mp h
          exact ⟨_, .reference hs href, .named _, fun _ => rfl⟩
      | wrapped =>
          simp only [Result.bind_eq_ok_iff, Value.demand_eq_ok_iff] at h
          obtain ⟨inner, hinner, h⟩ := h
          obtain ⟨t, ht, he, hgrouped⟩ := ih h
          exact ⟨t, .wrapped hs hinner ht, he,
            fun hw => hgrouped (forall_inside_of_part hw (by decide) hinner)⟩
      | array =>
          obtain ⟨items, hitems, -, harray⟩ := exists_items_of_typeWithin hs hwithin
          have hinside (hw : WrapsNoElements schema) : WrapsNoElements items :=
            forall_inside_of_part hw (by decide) hitems
          rcases harray with ⟨target, href, rfl⟩ | ⟨hsilent, rfl⟩ |
            ⟨href, hsilent, element, helement, hrest⟩
          · exact ⟨_, .arrayOfNamed hs hitems href, .array (.named _), fun _ => rfl⟩
          · exact ⟨_, .arrayOfAny hs hitems hsilent, .array .any, fun _ => rfl⟩
          · obtain ⟨t, ht, he, hgrouped⟩ := ih helement
            have hdescribes : Describes schema (.array t) := .array hs hitems href hsilent ht
            rcases hrest with ⟨-, rfl⟩ | ⟨hlists, rfl⟩
            · exact ⟨_, hdescribes, .array (.group he), fun hw => hgrouped (hinside hw)⟩
            · refine ⟨_, hdescribes, .array he, fun hw => ?_⟩
              have hbare : element.isUnion = false := by
                by_contra hunion
                rcases says_of_isUnion ht he (by simpa using hunion) with hspoken | hwraps
                · exact hlists hspoken
                · cases hwraps with
                  | wrapped _ _ hinner => cases hinner.symm.trans (hw schema .self items hitems)
              simp [TypeExpr.isGrouped, hbare, hgrouped (hinside hw)]
      | dictionary =>
          simp only [Result.bind_eq_ok_iff, Value.demand_eq_ok_iff] at h
          obtain ⟨further, hfurther, h⟩ := h
          split at h
          · next hmap =>
            simp only [Result.bind_eq_ok_iff, Result.pure_def, Except.ok.injEq] at h
            obtain ⟨element, helement, rfl⟩ := h
            obtain ⟨t, ht, he, hgrouped⟩ := ih helement
            exact ⟨.dictionary t, .dictionary hs hfurther hmap ht, .dictionary he,
              fun hw => hgrouped (forall_inside_of_part hw (by decide) hfurther)⟩
          · next hmap =>
            obtain rfl := Except.ok.inj h
            exact ⟨_, .dictionaryOfAny hs hfurther (by simpa using hmap), .dictionary .any,
              fun _ => rfl⟩
      | object =>
          obtain rfl := Except.ok.inj h
          exact ⟨.any, .object hs, .any, fun _ => rfl⟩
      | integer =>
          obtain rfl := Except.ok.inj h
          exact ⟨.number, .integer hs, .number, fun _ => rfl⟩
      | date =>
          obtain rfl := Except.ok.inj h
          exact ⟨.date, .date hs, .date, fun _ => rfl⟩
      | primitive =>
          simp only [givenOr, Result.bind_eq_ok_iff, Value.field_eq_ok_iff, Result.pure_def,
            Except.ok.injEq] at h
          obtain ⟨_, ⟨-, rfl⟩, rfl⟩ := h
          split
          · next htype => exact ⟨_, .given hs htype, .given _, fun _ => rfl⟩
          · next htype =>
            exact ⟨.any, .untyped hs (Bool.eq_false_iff.mpr htype), .any, fun _ => rfl⟩

end ClientScribe.Schema
