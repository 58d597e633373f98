import ClientScribe.Proofs.Client.FunctionComment
import ClientScribe.Proofs.Client.WrittenTypes
import ClientScribe.Proofs.Template.TypeComments

/-!
# The Texts in the Comments of a Declaration

What is declared for a definition is described in comments: its name, its parent, its description
and its members. `DefinitionText` says which texts of the document these are; the comments have an
end of a comment in them exactly if one of these texts has one (`ends_declaration_iff`).
-/

namespace ClientScribe.Client

open Document (Value Entries)
open Template (EndsComment MemberEnds DeclarationEnds membersOf aliasedType)
open Text (endsComment)

variable {e : Value × Value} {part : Value} {d : Declaration} {m : Member}

/-- A text of the document that stands in the line of a member. -/
inductive MemberText (property : Value × Value) : Text → Prop
  | name {t : Text} (h : property.1.text = .ok t) : MemberText property t
  | type {type : Value} {t : Text} (htype : Schema.docTypeText property.2 = .ok type)
    (h : type.text = .ok t) : MemberText property t
  | format {format : Value} {t : Text} (hformat : property.2.field "format" = .ok format)
    (htrue : format.isTrue = true) (h : format.text = .ok t) : MemberText property t
  | description {description : Value} {t : Text}
    (hdescription : property.2.field "description" = .ok description)
    (h : descriptionText description = .ok t) : MemberText property t

/-- A member is described in the same words in both places. -/
theorem ends_member_iff {property : Value × Value} {optional : Bool}
    (h : member property.1 property.2 optional = .ok m) :
    endsComment m.description = endsComment m.docDescription ∧
      (MemberEnds m ↔ ∃ t, MemberText property t ∧ endsComment t = true) := by
  simp only [member, Result.bind_eq_ok_iff, Result.pure_def, Except.ok.injEq] at h
  obtain ⟨_, -, type, htype, format, hformat, description, hdescription, described, hdescribed,
    docDescribed, hdocDescribed, rfl⟩ := h
  obtain ⟨raw, hraw, heq⟩ := exists_of_describe isSeam_memberCommentLine hdescribed
  obtain ⟨raw', hraw', hdocEq⟩ := exists_of_describe isSeam_commentLine hdocDescribed
  obtain rfl := Except.ok.inj (hraw.symm.trans hraw')
  refine ⟨heq.trans hdocEq.symm, ?_⟩
  constructor
  · rintro (⟨t, ht, h⟩ | ⟨t, ht, h⟩ | ⟨htrue, t, ht, h⟩ | h)
    · exact ⟨t, .type htype ht, h⟩
    · exact ⟨t, .name ht, h⟩
    · exact ⟨t, .format hformat htrue ht, h⟩
    · exact ⟨raw, .description hdescription hraw, hdocEq ▸ h⟩
  · rintro ⟨t, ht, h⟩
    cases ht with
    | name ht => exact .inr (.inl ⟨t, ht, h⟩)
    | type htype' ht =>
        obtain rfl := Except.ok.inj (htype.symm.trans htype')
        exact .inl ⟨t, ht, h⟩
    | format hformat' htrue ht =>
        obtain rfl := Except.ok.inj (hformat.symm.trans hformat')
        exact .inr (.inr (.inl ⟨htrue, t, ht, h⟩))
    | description hdescription' ht =>
        obtain rfl := Except.ok.inj (hdescription.symm.trans hdescription')
        obtain rfl := Except.ok.inj (hraw.symm.trans ht)
        exact .inr (.inr (.inr (hdocEq.trans h)))

/-- The members of an interface are those of the properties, one for each. -/
theorem members_eq_ok {ms : List Member} (h : members part = .ok ms) :
    ∃ properties es, part.field "properties" = .ok properties ∧
      (properties.orElse (.map [])).entries = .ok es ∧
      (∀ m ∈ ms, ∃ property ∈ es, ∃ optional, member property.1 property.2 optional = .ok m) ∧
      ∀ property ∈ es, ∃ m ∈ ms, ∃ optional, member property.1 property.2 optional = .ok m := by
  simp only [members, Result.bind_eq_ok_iff] at h
  obtain ⟨required, -, properties, hproperties, es, hes, hmembers⟩ := h
  have hmem (property : Value × Value) : property ∈ requiredFirst required es ↔ property ∈ es := by
    simp only [requiredFirst, List.mem_append, List.mem_filter]
    cases required.any property.1.same <;> simp
  refine ⟨properties, es, hproperties, hes, fun m hm => ?_, fun property hproperty => ?_⟩
  · obtain ⟨property, hproperty, hmember⟩ := Result.exists_of_mem_mapM hmembers hm
    exact ⟨property, (hmem property).mp hproperty, _, hmember⟩
  · obtain ⟨m, hm, hmember⟩ := Result.exists_of_mem_of_mapM hmembers ((hmem property).mpr hproperty)
    exact ⟨m, hm, _, hmember⟩

/-- A text of the document that stands in a comment for the shape of what is declared. -/
inductive ShapeText (part : Value) : Text → Prop
  /-- The type that an array is another name for. -/
  | type {kind type : Value} {t : Text} (hkind : part.field "type" = .ok kind)
    (harray : kind.isText "array" = true) (htype : Schema.docTypeText part = .ok type)
    (h : type.text = .ok t) : ShapeText part t
  | member {kind properties : Value} {es : Entries} {property : Value × Value} {t : Text}
    (hkind : part.field "type" = .ok kind) (harray : kind.isText "array" = false)
    (hproperties : part.field "properties" = .ok properties)
    (hes : (properties.orElse (.map [])).entries = .ok es) (hproperty : property ∈ es)
    (h : MemberText property t) : ShapeText part t

/-- What is declared ends a comment early exactly if a text of the part for its shape does. -/
theorem ends_shape_iff (h : shapeOf part = .ok d.shape) :
    ((∃ m ∈ membersOf d, endsComment m.description = true) →
      ∃ t, ShapeText part t ∧ endsComment t = true) ∧
    ((∃ type ∈ aliasedType d, EndsComment type) ∨ (∃ m ∈ membersOf d, MemberEnds m) ↔
      ∃ t, ShapeText part t ∧ endsComment t = true) := by
  simp only [shapeOf, Result.bind_eq_ok_iff] at h
  obtain ⟨kind, hkind, h⟩ := h
  split at h
  · next harray =>
    simp only [Result.bind_eq_ok_iff, Result.pure_def, Except.ok.injEq] at h
    obtain ⟨_, -, type, htype, hshape⟩ := h
    simp only [membersOf, aliasedType, ← hshape, Option.mem_some_iff, exists_eq_left']
    refine ⟨by simp, ?_⟩
    constructor
    · rintro (⟨t, ht, h⟩ | ⟨m, hm, -⟩)
      · exact ⟨t, .type hkind harray htype ht, h⟩
      · cases hm
    · rintro ⟨t, ht, h⟩
      cases ht with
      | type _ _ htype' ht =>
          obtain rfl := Except.ok.inj (htype.symm.trans htype')
          exact .inl ⟨t, ht, h⟩
      | member hkind' hnot =>
          obtain rfl := Except.ok.inj (hkind.symm.trans hkind')
          rw [harray] at hnot
          cases hnot
  · next harray =>
    simp only [Result.bind_eq_ok_iff, Result.pure_def, Except.ok.injEq] at h
    obtain ⟨ms, hms, hshape⟩ := h
    simp only [membersOf, aliasedType, ← hshape]
    obtain ⟨properties, es, hproperties, hes, hmem, hall⟩ := members_eq_ok hms
    have hends : (∃ m ∈ ms, MemberEnds m) ↔ ∃ t, ShapeText part t ∧ endsComment t = true := by
      constructor
      · rintro ⟨m, hm, h⟩
        obtain ⟨property, hproperty, _, hmember⟩ := hmem m hm
        obtain ⟨t, ht, h⟩ := (ends_member_iff hmember).2.mp h
        exact ⟨t, .member hkind (by simpa using harray) hproperties hes hproperty ht, h⟩
      · rintro ⟨t, ht, h⟩
        cases ht with
        | type hkind' harray' =>
            obtain rfl := Except.ok.inj (hkind.symm.trans hkind')
            exact absurd harray' harray
        | member _ _ hproperties' hes' hproperty ht =>
            obtain rfl := Except.ok.inj (hproperties.symm.trans hproperties')
            obtain rfl := Except.ok.inj (hes.symm.trans hes')
            obtain ⟨m, hm, _, hmember⟩ := hall _ hproperty
            exact ⟨m, hm, (ends_member_iff hmember).2.mpr ⟨t, ht, h⟩⟩
    refine ⟨?_, by simpa using hends⟩
    rintro ⟨m, hm, h⟩
    obtain ⟨_, _, _, hmember⟩ := hmem m hm
    refine hends.mp ⟨m, hm, .inr (.inr (.inr ?_))⟩
    rwa [← (ends_member_iff hmember).1]

/-- A text of the document that stands in the comment of a declared definition. -/
inductive DefinitionText (e : Value × Value) : Text → Prop
  | name {t : Text} (h : e.1.text = .ok t) : DefinitionText e t
  | parent {part : Value} {t : Text} (h : parentAndBody e.1 e.2 = .ok (some t, part)) :
    DefinitionText e t
  | description {parent : Option Text} {part description : Value} {t : Text}
    (hpart : parentAndBody e.1 e.2 = .ok (parent, part))
    (hdescription : part.field "description" = .ok description)
    (h : descriptionText description = .ok t) : DefinitionText e t
  | shape {parent : Option Text} {part : Value} {t : Text}
    (hpart : parentAndBody e.1 e.2 = .ok (parent, part)) (h : ShapeText part t) :
    DefinitionText e t

/-- **The comments of a declaration** have the end of a comment in them exactly if a text of the
definition that stands in them has one. -/
theorem ends_declaration_iff (typed : Bool) (h : (declaration e.1 e.2).result = .ok (some d)) :
    (DeclarationEnds d ∨ (typed = true ∧ (endsComment d.description = true ∨
        ∃ m ∈ membersOf d, endsComment m.description = true))) ↔
      ∃ t, DefinitionText e t ∧ endsComment t = true := by
  obtain ⟨part, description, hpart, hdescription, hdescribed, hshape⟩ :=
    parentAndBody_of_result_declaration h
  obtain ⟨raw, hraw, heq⟩ := exists_of_describe isSeam_commentLine hdescribed
  have hname : d.name = e.1 := by
    have hname := name_of_result_declaration h
    split at hname
    · simpa using hname
    · cases hname
  obtain ⟨hmembers, hends⟩ := ends_shape_iff hshape
  constructor
  · rintro ((h | h | ⟨t, ht, h⟩ | ⟨parent, hparent, h⟩ | h) | ⟨-, h | h⟩)
    · exact ⟨raw, .description hpart hdescription hraw, heq ▸ h⟩
    · obtain ⟨t, ht, h⟩ := hends.mp (.inl h)
      exact ⟨t, .shape hpart ht, h⟩
    · exact ⟨t, .name (hname ▸ ht), h⟩
    · rw [Option.mem_def.mp hparent] at hpart
      exact ⟨parent, .parent hpart, h⟩
    · obtain ⟨t, ht, h⟩ := hends.mp (.inr h)
      exact ⟨t, .shape hpart ht, h⟩
    · exact ⟨raw, .description hpart hdescription hraw, heq ▸ h⟩
    · obtain ⟨t, ht, h⟩ := hmembers h
      exact ⟨t, .shape hpart ht, h⟩
  · rintro ⟨t, ht, h⟩
    refine .inl ?_
    cases ht with
    | name ht => exact .inr (.inr (.inl ⟨t, hname ▸ ht, h⟩))
    | parent hpart' =>
        obtain ⟨hparent, -⟩ := Prod.mk.inj (Except.ok.inj (hpart.symm.trans hpart'))
        exact .inr (.inr (.inr (.inl ⟨t, hparent, h⟩)))
    | description hpart' hdescription' ht =>
        obtain ⟨-, rfl⟩ := Prod.mk.inj (Except.ok.inj (hpart.symm.trans hpart'))
        obtain rfl := Except.ok.inj (hdescription.symm.trans hdescription')
        obtain rfl := Except.ok.inj (hraw.symm.trans ht)
        exact .inl (heq.trans h)
    | shape hpart' ht =>
        obtain ⟨-, rfl⟩ := Prod.mk.inj (Except.ok.inj (hpart.symm.trans hpart'))
        obtain h | h := hends.mpr ⟨t, ht, h⟩
        · exact .inr (.inl h)
        · exact .inr (.inr (.inr (.inr h)))

/-- The comments of all declarations, of which each is that of a definition. -/
theorem ends_declarations_iff {defs : Entries} {declared : List Declaration} (typed : Bool)
    (h : (declarations defs).result = .ok declared) :
    (∃ d ∈ declared, DeclarationEnds d ∨ (typed = true ∧ (endsComment d.description = true ∨
        ∃ m ∈ membersOf d, endsComment m.description = true))) ↔
      ∃ e ∈ defs, isDeclared e.2 = true ∧ ∃ t, DefinitionText e t ∧ endsComment t = true := by
  simp only [declarations, Logged.result_bind, Logged.result_mapM, Logged.result_pure,
    Result.bind_eq_ok_iff, Except.ok.injEq] at h
  obtain ⟨all, hall, rfl⟩ := h
  simp only [List.mem_filterMap, id_eq, exists_eq_right]
  constructor
  · rintro ⟨d, hd, h⟩
    obtain ⟨e, he, hdeclaration⟩ := Result.exists_of_mem_mapM hall hd
    have hname := name_of_result_declaration hdeclaration
    split at hname
    · next hdeclared =>
      exact ⟨e, he, hdeclared, (ends_declaration_iff typed hdeclaration).mp h⟩
    · cases hname
  · rintro ⟨e, he, hdeclared, h⟩
    obtain ⟨declared, hmem, hdeclaration⟩ := Result.exists_of_mem_of_mapM hall he
    have hname := name_of_result_declaration hdeclaration
    rw [if_pos hdeclared, Option.map_eq_some_iff] at hname
    obtain ⟨d, rfl, -⟩ := hname
    exact ⟨d, hmem, (ends_declaration_iff typed hdeclaration).mpr h⟩

end ClientScribe.Client
