import ClientScribe.Proofs.Client.DeclaredNames
import ClientScribe.Proofs.Client.WrittenTypes
import Mathlib.Data.List.Pairwise
import Mathlib.Data.List.Perm.Basic

/-!
# The Members of an Interface

An interface has a member for every property, and the properties are gone through twice: once for
those whose name is required and once for the others. `members_of_declaration` says that this is a
reordering and no more than that. Every property has its member, the required members come first,
and of two members of one class the one whose property comes first in the document does so here
(`IsReordering`). What the required names say beyond that has no effect: a name that is no property,
a name given twice and the order of the names are not seen.
-/

namespace ClientScribe.Client

open Document (Value Entries KeysApart HaveTextKeys record)
open Schema (typeText docTypeText)

variable {part other : Value} {names names' : List Text} {es : Entries} {ms : List Member}
  {m : Member}

/-! ### What the body of an interface says -/

/-- The properties that a schema lists, none if it lists none. -/
def properties (part : Value) : Entries :=
  match ((part.get? "properties").getD .null).view with
  | .map es => es
  | _ => []

/-- A schema says which names are required: it lists texts, or says nothing. -/
inductive Requires (part : Value) : List Text → Prop
  | nothing (h : (part.get? "required").getD .null = .null) : Requires part []
  | listed {v : Value} {names : List Text} (h : part.get? "required" = some v)
      (hview : v.view = .list (names.map .str)) : Requires part names

/-- A key is one of some texts. -/
def isAmong (names : List Text) (key : Value) : Bool := names.any key.isText

/-- A key is one of some texts exactly when it is equal to one of them. -/
theorem isAmong_iff {key : Value} : isAmong names key = true ↔ ∃ n ∈ names, key = .str n := by
  simp [isAmong, List.any_eq_true, Value.isText_iff]

/-- Among texts the comparison of values is that of texts. -/
theorem any_same_map_str (names : List Text) (key : Value) :
    (names.map Value.str).any key.same = isAmong names key := by
  rw [List.any_map]
  exact congrArg names.any (funext (Value.same_str key))

/-- Texts that are required are read as they are. -/
theorem Requires.requiredNames_eq (h : Requires part names) (hmap : part.isMap = true) :
    requiredNames part = .ok (names.map .str) := by
  obtain ⟨fields, hview⟩ := Value.isMap_iff.mp hmap
  have hkeys (names : List Text) : (names.map Value.str).all Value.isKey = true := by
    simp [Value.isKey]
  rw [requiredNames, Value.field_of_view hview, Result.ok_bind]
  cases h with
  | nothing h =>
      rw [h]
      rfl
  | @listed v _ h hlist =>
      have hmembers : (v.orElse (.list [])).members = .ok (names.map .str) := by
        unfold Value.orElse
        split
        · simp [Value.members, hlist]
        · next hfalse =>
          -- of the lists only the empty one counts as not given
          cases v <;> simp_all [Value.view, Value.isTrue, Value.members]
      rw [h, Option.getD_some, hmembers, Result.ok_bind, hkeys]
      rfl

/-- Only a mapping is asked for required names. -/
theorem exists_view_of_requiredNames {required : List Value}
    (h : requiredNames part = .ok required) : ∃ es, part.view = .map es := by
  simp only [requiredNames, Result.bind_eq_ok_iff, Value.field_eq_ok_iff] at h
  obtain ⟨_, ⟨hview, -⟩, -⟩ := h
  exact hview

/-- The properties that are gone through are those that the schema lists. -/
theorem eq_properties {given : Value} (hgiven : (part.get? "properties").getD .null = given)
    (hes : (given.orElse (.map [])).entries = .ok es) : es = properties part := by
  unfold Value.orElse at hes
  unfold properties
  rw [hgiven]
  split at hes
  · rw [Value.entries_eq_ok_iff.mp hes]
  · next hfalse =>
    obtain rfl := Except.ok.inj hes
    cases given <;> simp_all [Value.view, Value.isTrue]

/-! ### The row of members -/

/-- The properties in the order in which they are gone through. -/
def row (names : List Text) (es : Entries) : Entries :=
  es.filter (fun e => isAmong names e.1) ++ es.filter (fun e => !isAmong names e.1)

/-- With texts for the required names, properties are gone through in the order of the row. -/
theorem requiredFirst_map_str (names : List Text) (es : Entries) :
    requiredFirst (names.map .str) es = row names es := by
  simp only [requiredFirst, any_same_map_str, row]

/-- The row has the properties, each once, in another order. -/
theorem row_perm (names : List Text) (es : Entries) : (row names es).Perm es :=
  List.filter_append_perm _ es

/-- The properties of one class are gone through in their order. -/
theorem filter_row (names : List Text) (es : Entries) (b : Bool) :
    (row names es).filter (fun e => (!isAmong names e.1) == b) =
      es.filter fun e => (!isAmong names e.1) == b := by
  cases b <;> simp [row, List.filter_filter]

/-- The required properties are gone through first. -/
theorem row_pairwise (names : List Text) (es : Entries) :
    (row names es).Pairwise fun e f => isAmong names e.1 = false → isAmong names f.1 = false := by
  have hoptional {f : Value × Value} (hf : f ∈ es.filter fun e => !isAmong names e.1) :
      isAmong names f.1 = false := by simpa using (List.mem_filter.mp hf).2
  refine List.pairwise_append.mpr ⟨?_, ?_, fun _ _ f hf _ => hoptional hf⟩
  · refine List.pairwise_of_forall_mem_list fun e he _ _ hfalse => ?_
    exact absurd (List.mem_filter.mp he).2 (Bool.eq_false_iff.mp hfalse)
  · exact List.pairwise_of_forall_mem_list fun _ _ f hf _ => hoptional hf

/-- Keys that are apart stay so: a required key is a text, and no other key is the same as one. -/
theorem row_keysApart (h : KeysApart es) : KeysApart (row names es) := by
  refine List.pairwise_append.mpr ⟨h.filter _, h.filter _, fun e he f hf => ?_⟩
  obtain ⟨n, hn, hkey⟩ := isAmong_iff.mp (List.mem_filter.mp he).2
  have hother : isAmong names f.1 = false := by simpa using (List.mem_filter.mp hf).2
  rw [hkey, Value.same, Bool.eq_false_iff, Ne, Value.isText_iff]
  exact fun heq => Bool.eq_false_iff.mp hother (isAmong_iff.mpr ⟨n, hn, heq⟩)

/-- The members are those of the properties, the required ones first. -/
theorem members_eq_ok_iff : members part = .ok ms ↔ ∃ required,
    requiredNames part = .ok required ∧
      (∃ es, (((part.get? "properties").getD .null).orElse (.map [])).entries = .ok es) ∧
      (requiredFirst required (properties part)).mapM
        (fun e => member e.1 e.2 (!required.any e.1.same)) = .ok ms := by
  simp only [members, Result.bind_eq_ok_iff, Value.field_eq_ok_iff]
  constructor
  · rintro ⟨required, hrequired, _, ⟨-, rfl⟩, es, hes, h⟩
    exact ⟨required, hrequired, ⟨es, hes⟩, eq_properties rfl hes ▸ h⟩
  · rintro ⟨required, hrequired, ⟨es, hes⟩, h⟩
    have hview := exists_view_of_requiredNames hrequired
    exact ⟨required, hrequired, _, ⟨hview, rfl⟩, es, hes, (eq_properties rfl hes).symm ▸ h⟩

/-- Members of required texts are those of the properties, gone through in the order of the row. -/
theorem members_eq_ok_iff_of_requires (hmap : part.isMap = true) (hrequired : Requires part names) :
    members part = .ok ms ↔
      (∃ es, (((part.get? "properties").getD .null).orElse (.map [])).entries = .ok es) ∧
        (row names (properties part)).mapM
          (fun e => member e.1 e.2 (!isAmong names e.1)) = .ok ms := by
  simp only [members_eq_ok_iff, hrequired.requiredNames_eq hmap, Except.ok.injEq, exists_eq_left',
    requiredFirst_map_str, any_same_map_str]

/-- What a member takes over from its property. -/
theorem member_eq_ok {name property : Value} {optional : Bool}
    (h : member name property optional = .ok m) :
    m.name = name ∧ m.optional = optional ∧ typeText property false = .ok m.type ∧
      docTypeText property = .ok m.docType := by
  simp only [member, Result.bind_eq_ok_iff, Result.pure_def, Except.ok.injEq] at h
  obtain ⟨type, htype, docType, hdocType, _, -, _, -, _, -, _, -, rfl⟩ := h
  exact ⟨rfl, rfl, htype, hdocType⟩

/-- The names of the members, each with whether it is optional. -/
theorem map_name_optional
    (h : (row names es).mapM (fun e => member e.1 e.2 (!isAmong names e.1)) = .ok ms) :
    ms.map (fun m => (m.name, m.optional)) =
      (row names es).map fun e => (e.1, !isAmong names e.1) := by
  refine Result.map_eq_map_of_mapM h fun e _ m hm => ?_
  obtain ⟨hname, hoptional, -, -⟩ := member_eq_ok hm
  rw [hname, hoptional]

/-- The names of the members are the keys of the row. -/
theorem map_name_row
    (h : (row names es).mapM (fun e => member e.1 e.2 (!isAmong names e.1)) = .ok ms) :
    ms.map Member.name = (row names es).map Prod.fst :=
  Result.map_eq_map_of_mapM h fun _ _ _ hm => (member_eq_ok hm).1

/-! ### The reordering -/

/-- The members of an interface are the properties in another order: one member for each, the
required ones first, and otherwise as the document has them. -/
structure IsReordering (names : List Text) (es : Entries) (ms : List Member) : Prop where
  perm : (ms.map Member.name).Perm (es.map Prod.fst)
  /-- No optional member stands in front of a required one. -/
  requiredFirst : ms.Pairwise fun m n => m.optional = true → n.optional = true
  /-- The members of one class stand in the order of the document. -/
  stable : ∀ b, ((ms.filter (·.optional == b)).map Member.name).Sublist (es.map Prod.fst)
  optional : ∀ m ∈ ms, (m.optional = true ↔ ∀ n ∈ names, m.name ≠ .str n)
  /-- A member has the types of its own property. -/
  types : ∀ m ∈ ms, ∃ property, (m.name, property) ∈ es ∧
    typeText property false = .ok m.type ∧ docTypeText property = .ok m.docType

/-- **The members are a reordering of the properties.** -/
theorem isReordering_of_mapM
    (h : (row names es).mapM (fun e => member e.1 e.2 (!isAmong names e.1)) = .ok ms) :
    IsReordering names es ms := by
  have hpairs := map_name_optional h
  have hmember (m) (hm : m ∈ ms) :
      ∃ e ∈ es, member e.1 e.2 (!isAmong names e.1) = .ok m := by
    obtain ⟨e, he, hmember⟩ := Result.exists_of_mem_mapM h hm
    exact ⟨e, (row_perm _ _).mem_iff.mp he, hmember⟩
  refine ⟨?_, ?_, fun b => ?_, fun m hm => ?_, fun m hm => ?_⟩
  · rw [map_name_row h]
    exact (row_perm names es).map Prod.fst
  · have hrow : ((row names es).map fun e => (e.1, !isAmong names e.1)).Pairwise
        fun p q => p.2 = true → q.2 = true :=
      List.pairwise_map.mpr ((row_pairwise names es).imp fun h => by simpa using h)
    exact List.pairwise_map.mp (hpairs ▸ hrow)
  · have hclass : (ms.filter (·.optional == b)).map Member.name =
        ((ms.map fun m => (m.name, m.optional)).filter (·.2 == b)).map Prod.fst := by
      rw [List.filter_map, List.map_map]
      rfl
    have hfilter : ((row names es).map fun e => (e.1, !isAmong names e.1)).filter (·.2 == b) =
        (es.filter fun e => (!isAmong names e.1) == b).map fun e => (e.1, !isAmong names e.1) := by
      rw [List.filter_map, ← filter_row]
      rfl
    rw [hclass, hpairs, hfilter, List.map_map]
    exact List.filter_sublist.map Prod.fst
  · obtain ⟨e, -, hm⟩ := hmember m hm
    obtain ⟨hname, hoptional, -, -⟩ := member_eq_ok hm
    rw [hoptional, hname, Bool.not_eq_true', Bool.eq_false_iff, Ne, isAmong_iff]
    simp
  · obtain ⟨⟨key, property⟩, he, hm⟩ := hmember m hm
    obtain ⟨rfl, -, htype, hdocType⟩ := member_eq_ok hm
    exact ⟨property, he, htype, hdocType⟩

/-- An interface has the members of the part of its definition that says its shape. -/
theorem members_of_shapeOf {d : Declaration} (h : shapeOf part = .ok d.shape)
    (hshape : d.shape = .interface ms) : part.isMap = true ∧ members part = .ok ms := by
  simp only [shapeOf, Result.bind_eq_ok_iff, hshape] at h
  obtain ⟨type, htype, h⟩ := h
  refine ⟨Value.isMap_iff.mpr (Value.field_eq_ok_iff.mp htype).1, ?_⟩
  split at h
  · simp only [Result.bind_eq_ok_iff, Result.pure_def, Except.ok.injEq, reduceCtorEq, and_false,
      exists_false] at h
  · simp only [Result.bind_eq_ok_iff, Result.pure_def, Except.ok.injEq, Shape.interface.injEq] at h
    obtain ⟨_, hmembers, rfl⟩ := h
    exact hmembers

/-- **The members of an interface.** They are the properties of the definition, or of the second one
of the schemas that it combines, with the required ones first and otherwise in the order of the
document; no two have one name. Required names that say the same of every property give the same
members, whatever else is among them. -/
theorem members_of_declaration {name definition : Value} {d : Declaration}
    (h : (declaration name definition).result = .ok (some d)) (hshape : d.shape = .interface ms)
    (hpart : shapePart? definition = some part) (hrequired : Requires part names)
    (hapart : KeysApart (properties part)) :
    IsReordering names (properties part) ms ∧
      (ms.map Member.name).Pairwise (fun a b => a.same b = false) ∧
      (HaveTextKeys (properties part) → (ms.map Member.name).Nodup) ∧
      ∀ other names', other.isMap = true → other.get? "properties" = part.get? "properties" →
        Requires other names' →
        (∀ e ∈ properties part, (∃ n ∈ names', e.1 = .str n) ↔ ∃ n ∈ names, e.1 = .str n) →
        members other = .ok ms := by
  obtain ⟨_, _, hbody, -, -, hshapeOf⟩ := parentAndBody_of_result_declaration h
  obtain rfl := Option.some.inj (hpart.symm.trans (shapePart?_of_parentAndBody hbody))
  obtain ⟨hmap, hmembers⟩ := members_of_shapeOf hshapeOf hshape
  obtain ⟨hentries, hrow⟩ := (members_eq_ok_iff_of_requires hmap hrequired).mp hmembers
  have hkeys : KeysApart (row names (properties part)) := row_keysApart hapart
  refine ⟨isReordering_of_mapM hrow, ?_, fun htext => ?_, ?_⟩
  · rw [map_name_row hrow]
    exact List.pairwise_map.mpr hkeys
  · rw [map_name_row hrow]
    exact hkeys.nodup_map_fst fun e he => htext e ((row_perm _ _).mem_iff.mp he)
  · intro other names' hother hproperties hrequired' hagree
    have hsame (e) (he : e ∈ properties part) : isAmong names' e.1 = isAmong names e.1 := by
      rw [Bool.eq_iff_iff, isAmong_iff, isAmong_iff]
      exact hagree e he
    have heq : properties other = properties part := by rw [properties, hproperties, properties]
    have hrowEq : row names' (properties part) = row names (properties part) := by
      unfold row
      rw [List.filter_congr hsame, List.filter_congr fun e he => congrArg not (hsame e he)]
    rw [members_eq_ok_iff_of_requires hother hrequired', hproperties, heq, hrowEq]
    refine ⟨hentries, Eq.trans (Result.mapM_congr fun e he => ?_) hrow⟩
    rw [hsame e ((row_perm _ _).mem_iff.mp he)]

/-- What a dog has beside what any pet has. -/
def dogExtension : Value :=
  record [("type", .str "object"),
    ("required", .list [.str "owner", .str "tail", .str "size", .str "owner"]),
    ("properties", record [("size", record [("type", .str "integer")]),
      ("name", record [("type", .str "string")]),
      ("owner", record [("$ref", .str "#/components/schemas/Owner")])])]

/-- A dog is a pet. -/
def dogDefinition : Value :=
  record [("allOf", .list [record [("$ref", .str "#/components/schemas/Pet")], dogExtension])]

/-- The members of a dog that must be there are its size and its owner. -/
theorem members_of_dogDefinition : ∃ d ms,
    (declaration (.str "Dog") dogDefinition).result = .ok (some d) ∧ d.shape = .interface ms ∧
      shapePart? dogDefinition = some dogExtension ∧
      Requires dogExtension ["owner", "tail", "size", "owner"] ∧
      KeysApart (properties dogExtension) ∧
      IsReordering ["owner", "tail", "size", "owner"] (properties dogExtension) ms ∧
      ms.map Member.name = [.str "size", .str "owner", .str "name"] ∧
      (ms.map Member.name).Nodup := by
  have hd : (declaration (.str "Dog") dogDefinition).result = .ok (some _) := rfl
  have hpart : shapePart? dogDefinition = some dogExtension := rfl
  have hrequired : Requires dogExtension ["owner", "tail", "size", "owner"] := .listed rfl rfl
  refine ⟨_, _, hd, rfl, hpart, hrequired, by decide, ?_⟩
  obtain ⟨hreordering, -, hnodup, -⟩ := members_of_declaration hd rfl hpart hrequired (by decide)
  refine ⟨hreordering, rfl, hnodup fun e he => ?_⟩
  obtain rfl | rfl | rfl : e = _ ∨ e = _ ∨ e = _ := by
    simpa [properties, dogExtension, record, Value.view, Value.get?, Document.lookup] using he
  · exact ⟨_, rfl⟩
  · exact ⟨_, rfl⟩
  · exact ⟨_, rfl⟩

end ClientScribe.Client
