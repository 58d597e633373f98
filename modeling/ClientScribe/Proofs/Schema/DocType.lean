import ClientScribe.Proofs.Schema.DataType

/-!
# Types And Their Documentation

A schema has a type in the client's language and one in the documentation, and they are read off by
two functions of their own. `LeadsTo` follows a schema as both of them do, through what it wraps and
through the elements of arrays, to a `Leaf`, and counts the arrays. `exists_leaf_of_typeText` says
that each text is that of the leaf with as many brackets behind it: what has a type in the client's
language has one in the documentation, and the two describe the same data.

This holds of schemas without listed values, which the documentation does not show.
-/

namespace ClientScribe.Schema

open Api (lastSegment)
open Document (Value record nestingLimit)

variable {schema items : Value} {e : TypeExpr} {limit : Nat}

/-! ### Limits -/

/-- What has a type within a limit has it within the next one. -/
theorem typeWithin_succ {qualified : Bool} (h : typeWithin qualified limit schema = .ok e) :
    typeWithin qualified (limit + 1) schema = .ok e := by
  induction limit generalizing schema e with
  | zero => cases h
  | succ limit ih =>
      rw [typeWithin] at h ⊢
      refine Result.bind_mono (fun _ hkind => hkind) (fun kind h => ?_) h
      cases kind with
      | wrapped => exact Result.bind_mono (fun _ hinner => hinner) (fun _ h => ih h) h
      | array =>
          refine Result.bind_mono (fun _ hitems => hitems) (fun items h => ?_) h
          refine Result.bind_mono (fun _ helements => helements) (fun elements h => ?_) h
          rcases elements with _ | elements
          · exact h
          · cases elements with
            | reference => exact h
            | _ => exact Result.bind_mono (fun _ h => ih h) (fun _ h => h) h
      | dictionary =>
          refine Result.bind_mono (fun _ hfurther => hfurther) (fun further h => ?_) h
          split
          · next hmap =>
            rw [if_pos hmap] at h
            exact Result.bind_mono (fun _ h => ih h) (fun _ h => h) h
          · next hmap =>
            rw [if_neg hmap] at h
            exact h
      | _ => exact h

/-- What has a type within a limit has it within any greater one. -/
theorem typeWithin_mono {qualified : Bool} {greater : Nat} (hle : limit ≤ greater)
    (h : typeWithin qualified limit schema = .ok e) :
    typeWithin qualified greater schema = .ok e := by
  induction hle with
  | refl => exact h
  | step _ ih => exact typeWithin_succ ih

/-! ### Leaves -/

/-- What a schema leads to. -/
inductive Leaf where
  /-- Nothing is said, or an object without more about its fields. -/
  | plain
  | reference (name : Text)
  /-- An object with any keys, and the text of the type of its values. -/
  | dictionary (values : Text)
  | integer
  | date
  /-- Any other type. -/
  | other (type : Text)

namespace Leaf

/-- The type of the client's language. -/
def typeText : Leaf → Text
  | plain => "any"
  | reference name => name
  | dictionary values => "\x7b[key: string]: " ++ values ++ "\x7d"
  | integer => "number"
  | date => "Date"
  | other type => type

/-- The type of the documentation. -/
def docText : Leaf → Text
  | plain => "object"
  | reference name => name
  | dictionary _ => "object"
  | integer => "number"
  | date => "date"
  | other type => type

end Leaf

/-- The brackets of arrays in arrays. -/
def brackets (depth : Nat) : Text := (List.replicate depth ("[]" : Text)).flatten

/-- One array more around arrays adds its brackets behind theirs. -/
theorem brackets_succ (depth : Nat) : brackets (depth + 1) = brackets depth ++ "[]" := by
  simp [brackets, List.replicate_succ']

/-- A schema leads to a leaf through some arrays. -/
inductive LeadsTo : Value → Nat → Leaf → Prop
  | absent {schema : Value} (hs : Says schema .absent) : LeadsTo schema 0 .plain
  | reference {schema : Value} {target : Text} (hs : Says schema .reference)
      (href : schema.get? "$ref" = some (.str target)) :
      LeadsTo schema 0 (.reference (lastSegment target))
  | wrapped {schema inner : Value} {depth : Nat} {leaf : Leaf} (hs : Says schema .wrapped)
      (hinner : schema.get? "schema" = some inner) (h : LeadsTo inner depth leaf) :
      LeadsTo schema depth leaf
  /-- Elements that say nothing are the end, whatever they wrap. -/
  | arrayOfAny {schema items : Value} (hs : Says schema .array)
      (hitems : schema.get? "items" = some items) (hsilent : IsSilent items) :
      LeadsTo schema 1 .plain
  | array {schema items : Value} {depth : Nat} {leaf : Leaf} (hs : Says schema .array)
      (hitems : schema.get? "items" = some items) (hspoken : ¬ IsSilent items)
      (h : LeadsTo items depth leaf) : LeadsTo schema (depth + 1) leaf
  | dictionary {schema further : Value} {values : Text} (hs : Says schema .dictionary)
      (hfurther : schema.get? "additionalProperties" = some further)
      (hmap : further.isMap = true) (hvalues : typeText further false = .ok (.str values)) :
      LeadsTo schema 0 (.dictionary values)
  | dictionaryOfAny {schema further : Value} (hs : Says schema .dictionary)
      (hfurther : schema.get? "additionalProperties" = some further)
      (hmap : further.isMap = false) : LeadsTo schema 0 (.dictionary "any")
  | object {schema : Value} (hs : Says schema .object) : LeadsTo schema 0 .plain
  | integer {schema : Value} (hs : Says schema .integer) : LeadsTo schema 0 .integer
  | date {schema : Value} (hs : Says schema .date) : LeadsTo schema 0 .date
  | other {schema : Value} {type : Text} (hs : Says schema .primitive)
      (htype : typeField schema = .str type) (hne : type ≠ []) : LeadsTo schema 0 (.other type)
  | untyped {schema : Value} (hs : Says schema .primitive)
      (htype : (typeField schema).isTrue = false) : LeadsTo schema 0 .plain

/-! ### Both types -/

/-- A schema whose type is a text, if it says one, and which lists no values. -/
structure IsSimple (schema : Value) : Prop where
  type : typeField schema = .null ∨ ∃ s, typeField schema = .str s
  notListed : (listedField schema).isTrue = false

/-- A simple schema lists no values. -/
theorem IsSimple.not_listsValues (h : IsSimple schema) : ¬ ListsValues schema := by
  rintro ⟨hlisted, -⟩
  simp [h.notListed] at hlisted

/-- A schema leads to a leaf through some arrays, and a type of the client's language and one of the
documentation are written as it. -/
structure WrittenAs (schema : Value) (e d : TypeExpr) (depth : Nat) (leaf : Leaf) : Prop where
  leadsTo : LeadsTo schema depth leaf
  value : e.value = .ok (.str (leaf.typeText ++ brackets depth))
  docValue : d.value = .ok (.str (leaf.docText ++ brackets depth))

variable {d : TypeExpr} {depth : Nat} {leaf : Leaf}

/-- A leaf outside of arrays is written as its two texts. -/
theorem writtenAs_leaf (h : LeadsTo schema 0 leaf) (he : e.value = .ok (.str leaf.typeText))
    (hd : d.value = .ok (.str leaf.docText)) : WrittenAs schema e d 0 leaf :=
  ⟨h, by simpa [brackets] using he, by simpa [brackets] using hd⟩

/-- Brackets behind the elements make an array of them in both types. -/
theorem WrittenAs.array (h : WrittenAs items e d depth leaf)
    (hleads : LeadsTo schema (depth + 1) leaf) :
    WrittenAs schema (.array e) (.array d) (depth + 1) leaf where
  leadsTo := hleads
  value := by
    rw [TypeExpr.value, h.value, brackets_succ, ← List.append_assoc]
    rfl
  docValue := by
    rw [TypeExpr.value, h.docValue, brackets_succ, ← List.append_assoc]
    rfl

/-- The type of an array in the documentation, by its elements. -/
theorem docTypeWithin_of_array (hkind : kindOf schema false = .ok .array)
    (hitems : schema.get? "items" = some items) (hmap : items.isMap = true) :
    docTypeWithin (limit + 1) schema =
      if (items.get? "$ref").isSome then do return .array (← declaredBy items false)
      else if (typeField items).isTrue then do return .array (← docTypeWithin limit items)
      else .ok (.array (.word "object")) := by
  obtain ⟨es, hv⟩ := Value.isMap_iff.mp hmap
  have hdemand : schema.demand "items" = .ok items := Value.demand_eq_ok_iff.mpr hitems
  have htype : items.field "type" = .ok (typeField items) := Value.field_of_view hv
  simp only [docTypeWithin, hkind, hdemand, htype, Result.ok_bind, Value.has_of_view hv,
    Result.pure_def]

/-- An array is written in both ways if its elements are. -/
theorem exists_writtenAs_of_array (hs : Says schema .array)
    (hitems : schema.get? "items" = some items) (hsimple : IsSimple items)
    (h : typeWithin false (limit + 1) schema = .ok e)
    (helements : ∀ element, typeWithin false limit items = .ok element →
      ∃ d depth leaf, docTypeWithin limit items = .ok d ∧ WrittenAs items element d depth leaf) :
    ∃ d depth leaf, docTypeWithin (limit + 1) schema = .ok d ∧
      WrittenAs schema e d depth leaf := by
  obtain ⟨items', hitems', hmap, harray⟩ := exists_items_of_typeWithin hs h
  obtain rfl := Option.some.inj (hitems.symm.trans hitems')
  have hkind : kindOf schema false = .ok .array := by
    rw [← kindOf_of_not_listsValues (fun hlists => nomatch hs.unique (.enumeration hlists))]
    exact hs.kindOf_eq
  rw [docTypeWithin_of_array hkind hitems hmap]
  rcases harray with
    ⟨target, href, rfl⟩ | ⟨hsilent, rfl⟩ | ⟨href, hspoken, element, helement, hrest⟩
  · have hspoken : ¬ IsSilent items := fun hsilent => nomatch href.symm.trans hsilent.1
    have hreference : Says items .reference := .reference hsimple.not_listsValues href
    have hdeclared : declaredBy items false = .ok (.declared (lastSegment target) false) :=
      declaredBy_eq_ok_iff.mpr ⟨target, href, rfl⟩
    have hitem : WrittenAs items (.declared (lastSegment target) false)
        (.declared (lastSegment target) false) 0 (.reference (lastSegment target)) :=
      writtenAs_leaf (.reference hreference href) rfl rfl
    refine ⟨_, 1, _, ?_, hitem.array (.array hs hitems hspoken hitem.leadsTo)⟩
    simp [href, hdeclared]
  · obtain ⟨href, htype, -⟩ := id hsilent
    refine ⟨.array (.word "object"), 1, .plain, ?_, .arrayOfAny hs hitems hsilent, rfl, rfl⟩
    simp [href, htype]
  · obtain ⟨d, depth, leaf, hd, hwritten⟩ := helements element helement
    have htype : (typeField items).isTrue = true := by
      by_contra hnone
      exact hspoken ⟨href, by simpa using hnone, hsimple.notListed⟩
    obtain rfl : e = .array element := by
      rcases hrest with ⟨hlists, -⟩ | ⟨-, heq⟩
      · cases hlists with
        | enumeration hlists => exact absurd hlists hsimple.not_listsValues
      · exact heq
    refine ⟨.array d, depth + 1, leaf, ?_,
      hwritten.array (.array hs hitems hspoken hwritten.leadsTo)⟩
    simp [href, htype, hd]

/-- The type that a mapping says, or a word if it says none. -/
theorem givenOr_of_view {es : Document.Entries} (hv : schema.view = .map es) (word : Text) :
    givenOr schema word =
      .ok (if (typeField schema).isTrue then .given (typeField schema) else .word word) := by
  rw [givenOr, Value.field_of_view hv]
  rfl

/-- **What has a type in the client's language has one in the documentation**, and both lead to the
same leaf. -/
theorem exists_writtenAs (hlimit : limit ≤ nestingLimit)
    (hsimple : ∀ node, Inside node schema → IsSimple node)
    (h : typeWithin false limit schema = .ok e) :
    ∃ d depth leaf, docTypeWithin limit schema = .ok d ∧ WrittenAs schema e d depth leaf := by
  induction limit generalizing schema e with
  | zero => cases h
  | succ limit ih =>
      have hless : limit ≤ nestingLimit := by omega
      have hwithin := h
      simp only [typeWithin, Result.bind_eq_ok_iff] at h
      obtain ⟨kind, hkind, h⟩ := h
      have hs : Says schema kind := says_of_kindOf hkind
      have hschema : IsSimple schema := hsimple schema .self
      -- without listed values both functions see the same kind
      have hdoc : kindOf schema false = .ok kind :=
        (kindOf_of_not_listsValues hschema.not_listsValues).symm.trans hkind
      rw [docTypeWithin, hdoc, Result.ok_bind]
      cases kind with
      | absent =>
          obtain rfl := Except.ok.inj h
          exact ⟨_, 0, .plain, rfl, writtenAs_leaf (.absent hs) rfl rfl⟩
      | enumeration =>
          cases hs with
          | enumeration hlists => exact absurd hlists hschema.not_listsValues
      | reference =>
          obtain ⟨target, href, rfl⟩ := declaredBy_eq_ok_iff.mp h
          have hdeclared : declaredBy schema false = .ok (.declared (lastSegment target) false) := h
          exact ⟨_, 0, _, hdeclared, writtenAs_leaf (.reference hs href) rfl rfl⟩
      | wrapped =>
          simp only [Result.bind_eq_ok_iff, Value.demand_eq_ok_iff] at h
          obtain ⟨inner, hinner, h⟩ := h
          obtain ⟨d, depth, leaf, hd, hwritten⟩ :=
            ih hless (forall_inside_of_part hsimple (by decide) hinner) h
          refine ⟨d, depth, leaf, ?_, .wrapped hs hinner hwritten.leadsTo, hwritten.value,
            hwritten.docValue⟩
          rw [← hd]
          exact congrArg (· >>= docTypeWithin limit) (Value.demand_eq_ok_iff.mpr hinner)
      | array =>
          obtain ⟨items, hitems, -, -⟩ := exists_items_of_typeWithin hs hwithin
          have hinside : ∀ node, Inside node items → IsSimple node :=
            forall_inside_of_part hsimple (by decide) hitems
          have harray := exists_writtenAs_of_array hs hitems (hinside items .self) hwithin
            fun element => ih hless hinside
          rwa [docTypeWithin, hdoc, Result.ok_bind] at harray
      | dictionary =>
          simp only [Result.bind_eq_ok_iff, Value.demand_eq_ok_iff] at h
          obtain ⟨further, hfurther, h⟩ := h
          split at h
          · next hmap =>
            simp only [Result.bind_eq_ok_iff, Result.pure_def, Except.ok.injEq] at h
            obtain ⟨element, helement, rfl⟩ := h
            obtain ⟨_, depth, leaf, -, hwritten⟩ :=
              ih hless (forall_inside_of_part hsimple (by decide) hfurther) helement
            have htype : typeOf further false = .ok element := typeWithin_mono hless helement
            have hvalues : typeText further false =
                .ok (.str (leaf.typeText ++ brackets depth)) := by
              rw [typeText, htype, Result.ok_bind, hwritten.value]
            have hvalue : (TypeExpr.dictionary element).value =
                .ok (.str (Leaf.dictionary (leaf.typeText ++ brackets depth)).typeText) := by
              rw [TypeExpr.value, hwritten.value]
              rfl
            exact ⟨_, 0, _, rfl,
              writtenAs_leaf (.dictionary hs hfurther hmap hvalues) hvalue rfl⟩
          · next hmap =>
            obtain rfl := Except.ok.inj h
            exact ⟨_, 0, _, rfl,
              writtenAs_leaf (.dictionaryOfAny hs hfurther (by simpa using hmap)) rfl rfl⟩
      | object =>
          obtain rfl := Except.ok.inj h
          exact ⟨_, 0, .plain, rfl, writtenAs_leaf (.object hs) rfl rfl⟩
      | integer =>
          obtain rfl := Except.ok.inj h
          exact ⟨_, 0, .integer, rfl, writtenAs_leaf (.integer hs) rfl rfl⟩
      | date =>
          obtain rfl := Except.ok.inj h
          exact ⟨_, 0, .date, rfl, writtenAs_leaf (.date hs) rfl rfl⟩
      | primitive =>
          obtain ⟨⟨es, hv⟩, -⟩ := hs.exists_view (by decide)
          simp only [givenOr_of_view hv, Except.ok.injEq] at h ⊢
          obtain rfl := h
          by_cases htype : (typeField schema).isTrue = true
          · rw [if_pos htype, if_pos htype]
            rcases hschema.type with hnull | ⟨type, hgiven⟩
            · simp [hnull, Value.isTrue] at htype
            · have hne : type ≠ [] := by
                rintro rfl
                simp [hgiven, Value.isTrue] at htype
              rw [hgiven]
              exact ⟨_, 0, .other type, rfl, writtenAs_leaf (.other hs hgiven hne) rfl rfl⟩
          · rw [if_neg htype, if_neg htype]
            have hfalse : (typeField schema).isTrue = false := by simpa using htype
            exact ⟨_, 0, .plain, rfl, writtenAs_leaf (.untyped hs hfalse) rfl rfl⟩

/-- **Both types of a schema describe the same data**: they are those of one leaf, behind the same
arrays. -/
theorem exists_leaf_of_typeText {text : Value}
    (hsimple : ∀ node, Inside node schema → IsSimple node)
    (h : typeText schema false = .ok text) :
    ∃ depth leaf, LeadsTo schema depth leaf ∧
      text = .str (leaf.typeText ++ brackets depth) ∧
      docTypeText schema = .ok (.str (leaf.docText ++ brackets depth)) := by
  obtain ⟨e, he, hvalue⟩ := Result.bind_eq_ok_iff.mp h
  obtain ⟨d, depth, leaf, hd, hwritten⟩ := exists_writtenAs (Nat.le_refl _) hsimple he
  refine ⟨depth, leaf, hwritten.leadsTo, Except.ok.inj (hvalue.symm.trans hwritten.value), ?_⟩
  have hdoc : docTypeOf schema = .ok d := hd
  rw [docTypeText, hdoc, Result.ok_bind, hwritten.docValue]

/-- Counts, each under a name. -/
def counts : Value :=
  record [("type", .str "object"), ("additionalProperties", record [("type", .str "integer")])]

/-- Lists of counts. -/
def countLists : Value := record [("type", .str "array"), ("items", counts)]

/-- The content of a body with lists of counts. -/
def countContent : Value := record [("schema", countLists)]

/-- Lists of counts are lists of objects in the documentation. -/
theorem exists_leaf_countContent : ∃ depth leaf,
    (∀ node, Inside node countContent → IsSimple node) ∧
      typeText countContent false = .ok (.str "\x7b[key: string]: number\x7d[]") ∧
      LeadsTo countContent depth leaf ∧
      docTypeText countContent = .ok (.str (leaf.docText ++ brackets depth)) := by
  have hsimple : ∀ node, Inside node countContent → IsSimple node := by
    refine forall_inside [countLists] rfl ⟨.inl rfl, rfl⟩ ?_
    rw [List.forall_mem_singleton]
    refine forall_inside [counts] rfl ⟨.inr ⟨_, rfl⟩, rfl⟩ ?_
    rw [List.forall_mem_singleton]
    refine forall_inside [_] rfl ⟨.inr ⟨_, rfl⟩, rfl⟩ ?_
    rw [List.forall_mem_singleton]
    exact forall_inside [] rfl ⟨.inr ⟨_, rfl⟩, rfl⟩ (fun _ h => nomatch h)
  have htext : typeText countContent false = .ok (.str "\x7b[key: string]: number\x7d[]") := rfl
  obtain ⟨depth, leaf, hleads, -, hdoc⟩ := exists_leaf_of_typeText hsimple htext
  exact ⟨depth, leaf, hsimple, htext, hleads, hdoc⟩

end ClientScribe.Schema
