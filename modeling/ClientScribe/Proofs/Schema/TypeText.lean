import ClientScribe.Proofs.Schema.DataType
import ClientScribe.Proofs.Script.TypeReader

/-!
# How The Type Of A Schema Is Read

A type expression is glued together from texts, and only one of its rules puts parentheses around
anything. `exists_read_of_typeText` says that this is enough: the text of a schema's type, read with
the precedence of the client's language, is what the schema describes, if the texts that it takes
from the schema are names (`HasPlainTexts`) and no elements of an array wrap a schema
(`WrapsNoElements`).

Listed values beside a reference are the values where the schema stands alone and the reference
where it gives the elements of an array. So no reading of schemas one by one gives the array of what
is read for the elements (`not_exists_reading`).
-/

namespace ClientScribe.Schema

open Api (lastSegment)
open Document (Value record)
open Script (TypeTree IsTypeName isMark)
open Script.TypeTree (ReadsAs ReadsAsMember HasFlatUnions)

variable {schema : Value} {qualified : Bool} {e : TypeExpr} {t : DataType}

/-! ### Types of data as types of the language -/

/-- The name of a type that the schema gives. -/
def givenName : Value → Text
  | .str s => s
  | _ => []

/-- The type of the client's language for a type of data. -/
def DataType.tree (qualified : Bool) : DataType → TypeTree
  | any => .name "any"
  | oneOf texts numbers => .unionOf (texts.map fun s => if numbers then .name s else .literal s)
  | named name => .name (qualifiedName name qualified)
  | array elements => .array (elements.tree qualified)
  | dictionary values => .dictionary (values.tree qualified)
  | number => .name "number"
  | date => .name "Date"
  | given type => .name (givenName type)

/-- Every text in the type is a name. -/
def DataType.HasNames : DataType → Prop
  | oneOf texts _ => texts ≠ [] ∧ ∀ s ∈ texts, IsTypeName s
  | named name => IsTypeName name
  | array elements => elements.HasNames
  | dictionary values => values.HasNames
  | given type => IsTypeName (givenName type)
  | _ => True

/-- Unions come from listed values alone. -/
theorem DataType.hasFlatUnions_tree (t : DataType) (qualified : Bool) :
    HasFlatUnions (t.tree qualified) := by
  induction t with
  | oneOf texts numbers =>
      have hflat (s : Text) : HasFlatUnions (if numbers then .name s else .literal s) := by
        cases numbers
        · exact .literal s
        · exact .name s
      have hunion : HasFlatUnions
          (.union (texts.map fun s => if numbers then .name s else .literal s)) := by
        refine .union fun member hmember => ?_
        obtain ⟨s, -, rfl⟩ := List.mem_map.mp hmember
        cases numbers
        · exact ⟨s, .inr rfl⟩
        · exact ⟨s, .inl rfl⟩
      match texts with
      | [] => exact hunion
      | [s] => exact hflat s
      | _ :: _ :: _ => exact hunion
  | array elements ih => exact .array ih
  | dictionary values ih => exact .dictionary ih
  | _ => exact .name _

/-! ### Texts of schemas -/

/-- The texts that a schema gives for its type are names: its type if it says one, the name that it
refers to, and the values that it lists, which do not list themselves. -/
structure HasPlainTexts (schema : Value) : Prop where
  type : typeField schema = .null ∨ ∃ s, typeField schema = .str s ∧ IsTypeName s
  reference : ∀ target, schema.get? "$ref" = some (.str target) → IsTypeName (lastSegment target)
  listed : ∀ members texts, (listedField schema).members = .ok members →
    members.mapM Value.text = .ok texts → ∀ s ∈ texts, IsTypeName s
  finite : ∀ ring id, listedField schema ≠ .looped ring id

/-- A value that counts as given and does not contain itself has a member. -/
theorem members_ne_nil {v : Value} {members : List Value} (htrue : v.isTrue = true)
    (hfinite : ∀ ring id, v ≠ .looped ring id) (h : v.members = .ok members) : members ≠ [] := by
  rintro rfl
  cases v with
  | looped ring id => exact hfinite ring id rfl
  | _ => simp_all [Value.members, Value.view, Value.isTrue, Document.misfit]

/-- What a schema with plain texts describes has names for its texts. -/
theorem Describes.hasNames (h : Describes schema t)
    (hplain : ∀ node, Inside node schema → HasPlainTexts node) : t.HasNames := by
  induction h with
  | @enumeration schema members texts hs hmembers htexts =>
      have hschema := hplain schema .self
      have hlists : ListsValues schema := by
        cases hs with
        | enumeration h => exact h
      refine ⟨?_, hschema.listed members texts hmembers htexts⟩
      rintro rfl
      cases Result.mapM_eq_ok_iff.mp htexts
      exact members_ne_nil hlists.1 hschema.finite hmembers rfl
  | @reference schema target hs href => exact (hplain schema .self).reference target href
  | wrapped hs hinner _ ih => exact ih (forall_inside_of_part hplain (by decide) hinner)
  | arrayOfNamed hs hitems href =>
      exact (forall_inside_of_part hplain (by decide) hitems _ .self).reference _ href
  | array hs hitems _ _ _ ih => exact ih (forall_inside_of_part hplain (by decide) hitems)
  | dictionary hs hfurther _ _ ih =>
      exact ih (forall_inside_of_part hplain (by decide) hfurther)
  | @given schema hs htype =>
      rcases (hplain schema .self).type with hnull | ⟨s, hs, hname⟩
      · simp [hnull, Value.isTrue] at htype
      · rw [hs]
        exact hname
  | _ => exact trivial

/-! ### Reading -/

/-- The namespace in front of a name makes it a name again. -/
theorem isTypeName_qualifiedName {name : Text} (h : IsTypeName name) (qualified : Bool) :
    IsTypeName (qualifiedName name qualified) := by
  cases qualified with
  | false => exact h
  | true =>
      obtain ⟨hne, hmarks⟩ := h
      refine ⟨by simp [qualifiedName, hne], fun c hc => ?_⟩
      rcases List.mem_append.mp hc with hfront | hname
      · have hall : ∀ c ∈ typeNamespace ++ ".", isMark c = false := by decide
        exact hall c hfront
      · exact hmarks c hname

/-- A literal of a name is read as the name in quotes. -/
theorem readsAsMember_quotedLiteral {s : Text} (h : IsTypeName s) :
    ReadsAsMember (quotedLiteral s) (.literal s) := by
  obtain ⟨-, hmarks⟩ := h
  have hquotes : ∀ c ∈ s, c ≠ .char '\'' ∧ c ≠ .char '\\' := by
    intro c hc
    refine ⟨?_, ?_⟩ <;>
    · rintro rfl
      exact absurd (hmarks _ hc) (by decide)
  have hsame : s.flatMap literalPoint = s := by
    rw [List.flatMap_congr fun c hc => (show literalPoint c = [c] by
      simp [literalPoint, (hquotes c hc).1])]
    simp
  rw [quotedLiteral, hsame]
  exact .literal hquotes

/-- The literals of names are read one by one. -/
theorem forall₂_readsAsMember_literalTexts {texts : List Text} (h : ∀ s ∈ texts, IsTypeName s)
    (numbers : Bool) : List.Forall₂ ReadsAsMember (literalTexts texts numbers)
      (texts.map fun s => if numbers then .name s else .literal s) := by
  cases numbers with
  | true =>
      have hnames : List.Forall₂ ReadsAsMember texts (texts.map .name) :=
        List.forall₂_map_right_iff.mpr (List.forall₂_same.mpr fun s hs => .name (h s hs))
      exact hnames
  | false =>
      have hquoted : List.Forall₂ ReadsAsMember (texts.map quotedLiteral) (texts.map .literal) := by
        rw [List.forall₂_map_left_iff, List.forall₂_map_right_iff]
        exact List.forall₂_same.mpr fun s hs => readsAsMember_quotedLiteral (h s hs)
      exact hquoted

/-- The text of a type expression is read as the type of data that it stands for. A union stands
bare only at the outside, or in brackets. -/
theorem exists_readsAs_of_expresses (h : Expresses qualified e t) (hgrouped : e.isGrouped = true)
    (hnames : t.HasNames) :
    ∃ s, e.value = .ok (.str s) ∧
      (∃ ts, ReadsAs s ts ∧ TypeTree.unionOf ts = t.tree qualified) ∧
      (e.isUnion = false → ReadsAsMember s (t.tree qualified)) := by
  -- what is read as a member is read as a union of itself
  have hmember {s : Text} {e : TypeExpr} {t : DataType} (hvalue : e.value = .ok (.str s))
      (hread : ReadsAsMember s (t.tree qualified)) :
      ∃ s, e.value = .ok (.str s) ∧
        (∃ ts, ReadsAs s ts ∧ TypeTree.unionOf ts = t.tree qualified) ∧
        (e.isUnion = false → ReadsAsMember s (t.tree qualified)) :=
    ⟨s, hvalue, ⟨[_], .single hread, rfl⟩, fun _ => hread⟩
  induction h with
  | any => exact hmember rfl (.name (by decide))
  | oneOf texts numbers =>
      obtain ⟨hne, htexts⟩ := hnames
      refine ⟨_, rfl, ⟨_, .intercalate (forall₂_readsAsMember_literalTexts htexts numbers) ?_,
        rfl⟩, fun hunion => nomatch hunion⟩
      cases numbers <;> simpa [literalTexts] using hne
  | named name => exact hmember rfl (.name (isTypeName_qualifiedName hnames qualified))
  | @array element t he ih =>
      obtain ⟨hbare, hgrouped⟩ := (Bool.and_eq_true _ _).mp hgrouped
      obtain ⟨s, hvalue, -, hread⟩ := ih hgrouped hnames
      have htext : element.array.value = .ok (.str (s ++ "[]")) := by
        rw [TypeExpr.value, hvalue]
        rfl
      exact hmember htext (.array (hread (by simpa using hbare)))
  | @group element t he ih =>
      obtain ⟨s, hvalue, ⟨ts, hread, hts⟩, -⟩ := ih hgrouped hnames
      have htext : element.group.value = .ok (.str ("(" ++ s ++ ")")) := by
        rw [TypeExpr.value, hvalue]
        rfl
      exact hmember htext (hts ▸ hread.group)
  | @dictionary element t he ih =>
      obtain ⟨s, hvalue, ⟨ts, hread, hts⟩, -⟩ := ih hgrouped hnames
      have htext : element.dictionary.value =
          .ok (.str (Script.TypeTree.dictionaryFront ++ s ++ "\x7d")) := by
        rw [TypeExpr.value, hvalue]
        rfl
      refine hmember htext ?_
      rw [DataType.tree, ← hts]
      exact hread.dictionary
  | number => exact hmember rfl (.name (by decide))
  | date => exact hmember rfl (.name (by decide))
  | given type =>
      cases type with
      | str s => exact hmember rfl (.name hnames)
      | _ => exact absurd rfl hnames.1

/-- **The text of a schema's type is read as what the schema describes**, and every union in it is
one of listed values. The schema describes nothing else. -/
theorem exists_read_of_typeText {text : Value}
    (hplain : ∀ node, Inside node schema → HasPlainTexts node) (hwraps : WrapsNoElements schema)
    (h : typeText schema qualified = .ok text) :
    ∃ s t, text = .str s ∧ (∀ t', Describes schema t' ↔ t' = t) ∧
      TypeTree.read s = some (t.tree qualified) ∧ HasFlatUnions (t.tree qualified) := by
  obtain ⟨e, he, hvalue⟩ := Result.bind_eq_ok_iff.mp h
  obtain ⟨t, ht, hexpresses, hgrouped⟩ := exists_of_typeWithin he
  obtain ⟨s, hs, ⟨ts, hread, hts⟩, -⟩ :=
    exists_readsAs_of_expresses hexpresses (hgrouped hwraps) (ht.hasNames hplain)
  have htext : text = .str s := Except.ok.inj (hvalue.symm.trans hs)
  refine ⟨s, t, htext, fun t' => ⟨fun ht' => ht'.unique ht, ?_⟩, ?_, t.hasFlatUnions_tree qualified⟩
  · rintro rfl
    exact ht
  · rw [hread.read_eq, hts]

/-- A schema that gives no more than a type has plain texts if the type is a name. -/
theorem hasPlainTexts_of_type {s : Text} (htype : typeField schema = .str s) (hname : IsTypeName s)
    (href : schema.get? "$ref" = none) (hlisted : schema.get? "enum" = none) :
    HasPlainTexts schema where
  type := .inr ⟨s, htype, hname⟩
  reference := fun target h => nomatch href.symm.trans h
  listed := fun members texts h => by simp [listedField, hlisted, Value.members, Value.view,
    Document.misfit] at h
  finite := fun ring id h => by simp [listedField, hlisted] at h

/-- A schema that lists names has plain texts if the name that it refers to is one as well. -/
theorem hasPlainTexts_of_list (names : List Text) (htype : typeField schema = .null)
    (hlisted : listedField schema = .list (names.map .str)) (hnames : ∀ s ∈ names, IsTypeName s)
    (href : ∀ target, schema.get? "$ref" = some (.str target) → IsTypeName (lastSegment target)) :
    HasPlainTexts schema where
  type := .inl htype
  reference := href
  listed := by
    intro members texts hmembers htexts
    rw [hlisted] at hmembers
    obtain rfl := Except.ok.inj hmembers
    obtain rfl := Except.ok.inj ((Value.mapM_text_str names).symm.trans htexts)
    exact hnames
  finite := fun ring id h => nomatch hlisted.symm.trans h

/-- The colours that are offered. -/
def colours : Value := record [("enum", .list [.str "red", .str "green"])]

/-- Lists of colours. -/
def palette : Value := record [("type", .str "array"), ("items", colours)]

/-- Lists of colours, each under a name. -/
def palettes : Value := record [("type", .str "object"), ("additionalProperties", palette)]

/-- The colours of a palette stay together in the brackets of the array. -/
theorem exists_read_palettes : ∃ s t, typeText palettes true = .ok (.str s) ∧
    (∀ node, Inside node palettes → HasPlainTexts node) ∧ WrapsNoElements palettes ∧
      Describes palettes t ∧ TypeTree.read s = some (t.tree true) := by
  have hcolours : HasPlainTexts colours :=
    hasPlainTexts_of_list ["red", "green"] rfl rfl (by decide) (fun _ h => nomatch h)
  have hplain : ∀ node, Inside node palettes → HasPlainTexts node := by
    refine forall_inside [palette] rfl
      (hasPlainTexts_of_type (s := "object") rfl (by decide) rfl rfl) ?_
    rw [List.forall_mem_singleton]
    refine forall_inside [colours] rfl
      (hasPlainTexts_of_type (s := "array") rfl (by decide) rfl rfl) ?_
    rw [List.forall_mem_singleton]
    exact forall_inside [] rfl hcolours (fun _ h => nomatch h)
  have hwraps : WrapsNoElements palettes := by
    refine forall_inside [palette] rfl (fun _ h => nomatch h) ?_
    rw [List.forall_mem_singleton]
    refine forall_inside [colours] rfl (fun items h => ?_) ?_
    · obtain rfl := Option.some.inj h
      rfl
    rw [List.forall_mem_singleton]
    exact forall_inside [] rfl (fun _ h => nomatch h) (fun _ h => nomatch h)
  have htext : typeText palettes true = .ok _ := rfl
  obtain ⟨s, t, hs, ht, hread, -⟩ := exists_read_of_typeText hplain hwraps htext
  exact ⟨s, t, htext.trans (congrArg Except.ok hs), hplain, hwraps, (ht t).mpr rfl, hread⟩

/-- **No reading of schemas one by one gives arrays of what is read for their elements.** Listed
values beside a reference are read as the values, and an array of them as one of the reference. -/
theorem not_exists_reading : ¬ ∃ T : Value → TypeTree,
    (∀ schema items, Says schema .array → schema.get? "items" = some items →
      ¬ IsSilent items → T schema = .array (T items)) ∧
    ∀ schema s, (∀ node, Inside node schema → HasPlainTexts node) → WrapsNoElements schema →
      typeText schema true = .ok (.str s) → TypeTree.read s = some (T schema) := by
  rintro ⟨T, harray, hread⟩
  have hlisted : HasPlainTexts listedReference := by
    refine hasPlainTexts_of_list ["a"] rfl rfl (by decide) fun target h => ?_
    obtain rfl := Value.str.inj (Option.some.inj h)
    decide
  have hplain : ∀ node, Inside node listedReference → HasPlainTexts node :=
    forall_inside [] rfl hlisted (fun _ h => nomatch h)
  have hwraps : WrapsNoElements listedReference :=
    forall_inside [] rfl (fun _ h => nomatch h) (fun _ h => nomatch h)
  have hlist : TypeTree.read "'a'" = some (T listedReference) :=
    hread listedReference _ hplain hwraps rfl
  have hreference : TypeTree.read "api.Pet[]" = some (T listedReferences) := by
    refine hread listedReferences _ (forall_inside [listedReference] rfl ?_ ?_) ?_ rfl
    · exact hasPlainTexts_of_type (s := "array") rfl (by decide) rfl rfl
    · rwa [List.forall_mem_singleton]
    · refine forall_inside [listedReference] rfl (fun items h => ?_) ?_
      · obtain rfl := Option.some.inj h
        rfl
      · rwa [List.forall_mem_singleton]
  have hsilent : ¬ IsSilent listedReference := fun h => nomatch h.1
  rw [harray listedReferences listedReference says_listedReferences rfl hsilent,
    ← Option.some.inj hlist] at hreference
  cases hreference

end ClientScribe.Schema
