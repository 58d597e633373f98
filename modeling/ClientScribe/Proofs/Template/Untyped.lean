import ClientScribe.Client.Action
import ClientScribe.Proofs.Document.Entries
import ClientScribe.Proofs.Template.Rendering
import ClientScribe.Template.Actions
import ClientScribe.Template.Descriptor
import ClientScribe.Template.Types

/-!
# What Is Left Without Types

A template asks for the name `typed` where the languages differ, and the views of operations and
actions differ in their signatures. Rendered for views with types and for the same views without, a
template gives two texts. `areErasable` looks through a row of parts, repetitions and choices
included, for a place where the second text could ask for more than the first one or say something
else: it lets `typed` stand only in front of a row that is left out, and a signature only where it
is written. Then the second text can be written whenever the first one can, and is the first one
with some of it left out (`exists_renderParts`); parts that do not ask for what differs at all
write the same (`areCommon`).

All templates of the client pass this check.
-/

namespace ClientScribe.Template

open Document (Value record misfit)

/-! ### What a template asks for -/

/-- What a name is bound to in the two languages: whether there are types, the views of a file, one
of these views, or the same in both. -/
inductive NameKind where
  | language
  | views
  | view
  | common
  deriving DecidableEq

/-- The kind of a name. -/
def kindOf (name : Text) : NameKind :=
  if name = "typed" then .language
  else if name = "operations" ∨ name = "actions" then .views
  else if name = "op" ∨ name = "action" then .view
  else .common

/-- Whether a field of a view loses its types in the language without them. -/
def losesTypes (field : Text) : Bool :=
  field == "signature" || field == "return_signature"

/-- Whether an expression is a name of a kind. -/
def Expr.isOfKind (kind : NameKind) : Expr → Bool
  | name n => kindOf n == kind
  | _ => false

/-- Whether an expression asks for nothing that differs. -/
def Expr.isCommon : Expr → Bool
  | name n => kindOf n == .common
  | field e f => e.isCommon || (e.isOfKind .view && !losesTypes f)
  | last => true
  | not e => e.isCommon
  | and a b => a.isCommon && b.isCommon
  | or a b => a.isCommon && b.isCommon
  | is e _ => e.isCommon

/-- Whether an expression is a signature. -/
def Expr.isSignature : Expr → Bool
  | field e f => e.isOfKind .view && losesTypes f
  | _ => false

/-- Whether an expression asks first of all whether there are types. -/
def Expr.asksLanguage : Expr → Bool
  | name n => kindOf n == .language
  | and a _ => a.asksLanguage
  | _ => false

mutual

/-- Whether a part asks for nothing that differs. -/
def Part.isCommon : Part → Bool
  | .text _ => true
  | .value e => e.isCommon
  | .joined e _ => e.isCommon
  | .choice condition yes no => condition.isCommon && areCommon yes && areCommon no
  | .each name e condition body =>
    kindOf name == .common && e.isCommon && condition.all Expr.isCommon && areCommon body

/-- Whether a row of parts asks for nothing that differs. -/
def areCommon : List Part → Bool
  | [] => true
  | p :: rest => p.isCommon && areCommon rest

end

mutual

/-- Whether a part only leaves something out without types. -/
def Part.isErasable : Part → Bool
  | .text _ => true
  | .value e => e.isCommon || e.isSignature
  | .joined e _ => e.isCommon
  | .choice condition yes no =>
    (condition.isCommon && areErasable yes && areErasable no) ||
      (condition.asksLanguage && no.isEmpty)
  | .each name e condition body =>
    ((kindOf name == .common && e.isCommon && condition.all Expr.isCommon) ||
      (kindOf name == .view && e.isOfKind .views && condition.isNone)) && areErasable body

/-- Whether a row of parts only leaves something out without types. -/
def areErasable : List Part → Bool
  | [] => true
  | p :: rest => p.isErasable && areErasable rest

end

/-! ### Two scopes -/

/-- Named values that belong together one by one. -/
def NamedApart (r : Text → Value → Value → Prop) (fields fields' : List (Text × Value)) : Prop :=
  List.Forall₂ (fun f f' => f.1 = f'.1 ∧ r f.1 f.2 f'.2) fields fields'

/-- A field of a view in the two languages: the same, or a text of which the other one leaves
something out. -/
def FieldApart (field : Text) (v v' : Value) : Prop :=
  if losesTypes field = true then ∃ text text', v = .str text ∧ v' = .str text' ∧ text'.Sublist text
  else v = v'

/-- Records whose fields belong together. -/
def RecordsApart (r : Text → Value → Value → Prop) (v v' : Value) : Prop :=
  ∃ fields fields', v = record fields ∧ v' = record fields' ∧ NamedApart r fields fields'

/-- The view of an operation or of an action in the two languages. -/
def ViewsApart : Value → Value → Prop := RecordsApart FieldApart

/-- What a name is bound to in the two languages. -/
def BoundApart (name : Text) (v v' : Value) : Prop :=
  match kindOf name with
  | .language => v' = .bool false
  | .views => ∃ vs vs', v = .list vs ∧ v' = .list vs' ∧ List.Forall₂ ViewsApart vs vs'
  | .view => ViewsApart v v'
  | .common => v = v'

/-- The scopes of a template in the two languages. -/
structure LanguageApart (s s' : Scope) : Prop where
  bindings : NamedApart BoundApart s.bindings s'.bindings
  isLast : s.isLast = s'.isLast

variable {s s' : Scope} {e : Expr} {name : Text} {v v' : Value} {text text' : Text}

/-- A field that keeps its text is the same in both languages. -/
theorem FieldApart.same (h : losesTypes name = false) (v : Value) : FieldApart name v v := by
  rw [FieldApart, if_neg (by simp [h])]

/-- A field that loses types may have a text of which something is left out. -/
theorem FieldApart.left (h : losesTypes name = true) (hleft : text'.Sublist text) :
    FieldApart name (.str text) (.str text') := by
  rw [FieldApart, if_pos h]
  exact ⟨text, text', rfl, rfl, hleft⟩

/-- A name for something common is bound to the same value in both languages. -/
theorem BoundApart.same (h : kindOf name = .common) (v : Value) : BoundApart name v v := by
  rw [BoundApart, h]

/-- The flag for types may be anything in the first language, and is off in the second. -/
theorem BoundApart.language (h : kindOf name = .language) (v : Value) :
    BoundApart name v (.bool false) := by
  rw [BoundApart, h]

/-- A name for views is bound to two lists of them that belong together one by one. -/
theorem BoundApart.views {vs vs' : List Value} (h : kindOf name = .views)
    (hvs : List.Forall₂ ViewsApart vs vs') : BoundApart name (.list vs) (.list vs') := by
  rw [BoundApart, h]
  exact ⟨vs, vs', rfl, rfl, hvs⟩

/-- A name for one view is bound to two views that belong together. -/
theorem BoundApart.view (h : kindOf name = .view) (hv : ViewsApart v v') :
    BoundApart name v v' := by
  rwa [BoundApart, h]

/-- One more pair of values under one name leaves the rows together. -/
theorem NamedApart.cons {r : Text → Value → Value → Prop} {fields fields' : List (Text × Value)}
    (h : r name v v') (hfields : NamedApart r fields fields') :
    NamedApart r ((name, v) :: fields) ((name, v') :: fields') :=
  List.Forall₂.cons ⟨rfl, h⟩ hfields

/-- A name is bound in both of such rows, or in none. -/
theorem NamedApart.lookup {r : Text → Value → Value → Prop} {fields fields' : List (Text × Value)}
    (h : NamedApart r fields fields') (name : Text) :
    (fields.lookup name = none ∧ fields'.lookup name = none) ∨
      ∃ v v', fields.lookup name = some v ∧ fields'.lookup name = some v' ∧ r name v v' := by
  induction h with
  | nil => exact .inl ⟨rfl, rfl⟩
  | @cons f f' fields fields' hf _ ih =>
      obtain ⟨key, v⟩ := f
      obtain ⟨key', v'⟩ := f'
      obtain ⟨rfl, hr⟩ : key = key' ∧ r key v v' := hf
      by_cases hname : name = key
      · subst hname
        exact .inr ⟨v, v', by simp, by simp, hr⟩
      · rw [List.lookup_cons, List.lookup_cons, beq_false_of_ne hname]
        exact ih

/-- A record has its fields under their names. -/
theorem lookup_fields (name : Text) (fields : List (Text × Value)) :
    Document.lookup name (fields.map fun f => (.str f.1, f.2)) = fields.lookup name := by
  induction fields with
  | nil => rfl
  | cons f fields ih =>
      obtain ⟨key, v⟩ := f
      rw [List.map_cons, Document.lookup, List.lookup_cons, ih, Value.isText_str]
      by_cases hname : name = key
      · simp [hname]
      · rw [beq_false_of_ne hname, beq_false_of_ne (Ne.symm hname)]
        rfl

namespace LanguageApart

/-- One more name in both scopes. -/
theorem bind (h : LanguageApart s s') (hbound : BoundApart name v v') (isLast : Bool) :
    LanguageApart (s.bind name v isLast) (s'.bind name v' isLast) :=
  ⟨.cons hbound h.bindings, rfl⟩

/-- A name of a kind is bound in both scopes, or in none. -/
theorem eval_of_isOfKind {kind : NameKind} (h : LanguageApart s s') (he : e.isOfKind kind = true) :
    (e.eval s = .ok none ∧ e.eval s' = .ok none) ∨
      ∃ n v v', kindOf n = kind ∧ e.eval s = .ok (some v) ∧ e.eval s' = .ok (some v') ∧
        BoundApart n v v' := by
  cases e with
  | name n =>
      rw [Expr.eval, Expr.eval]
      obtain ⟨hnone, hnone'⟩ | ⟨v, v', hv, hv', hbound⟩ := h.bindings.lookup n
      · exact .inl ⟨congrArg _ hnone, congrArg _ hnone'⟩
      · exact .inr ⟨n, v, v', by simpa [Expr.isOfKind] using he, congrArg _ hv, congrArg _ hv',
          hbound⟩
  | _ => cases he

/-- A field of a view is there in both scopes, or in none. -/
theorem eval_view (h : LanguageApart s s') (he : e.isOfKind .view = true) (field : Text) :
    (Expr.field e field).eval s = misfit ∧ (Expr.field e field).eval s' = misfit ∨
      (Expr.field e field).eval s = .ok none ∧ (Expr.field e field).eval s' = .ok none ∨
        ∃ v v', (Expr.field e field).eval s = .ok (some v) ∧
          (Expr.field e field).eval s' = .ok (some v') ∧ FieldApart field v v' := by
  obtain ⟨hnone, hnone'⟩ | ⟨n, _, _, hkind, hv, hv', hbound⟩ := h.eval_of_isOfKind he
  · exact .inl ⟨by rw [Expr.eval, hnone]; rfl, by rw [Expr.eval, hnone']; rfl⟩
  · rw [BoundApart, hkind] at hbound
    obtain ⟨fields, fields', rfl, rfl, hfields⟩ := hbound
    have hfield : (Expr.field e field).eval s = .ok (fields.lookup field) := by
      rw [Expr.eval, hv]
      exact congrArg Except.ok (lookup_fields field fields)
    have hfield' : (Expr.field e field).eval s' = .ok (fields'.lookup field) := by
      rw [Expr.eval, hv']
      exact congrArg Except.ok (lookup_fields field fields')
    rw [hfield, hfield']
    obtain ⟨hlookup, hlookup'⟩ | ⟨v, v', hlookup, hlookup', hapart⟩ := hfields.lookup field
    · exact .inr (.inl ⟨congrArg _ hlookup, congrArg _ hlookup'⟩)
    · exact .inr (.inr ⟨v, v', congrArg _ hlookup, congrArg _ hlookup', hapart⟩)

/-- An expression that asks for nothing that differs has one value in both scopes. -/
theorem eval_eq (h : LanguageApart s s') (he : e.isCommon = true) : e.eval s = e.eval s' := by
  induction e with
  | name n =>
      have hkind : kindOf n = .common := by simpa [Expr.isCommon] using he
      rw [Expr.eval, Expr.eval]
      obtain ⟨hnone, hnone'⟩ | ⟨v, v', hv, hv', hbound⟩ := h.bindings.lookup n
      · rw [hnone, hnone']
      · obtain rfl : v = v' := by simpa [BoundApart, hkind] using hbound
        rw [hv, hv']
  | field e f ih =>
      rw [Expr.isCommon, Bool.or_eq_true, Bool.and_eq_true, Bool.not_eq_true'] at he
      obtain he | ⟨hview, hfield⟩ := he
      · rw [Expr.eval, Expr.eval, ih he]
      · obtain ⟨hv, hv'⟩ | ⟨hv, hv'⟩ | ⟨v, v', hv, hv', hapart⟩ := h.eval_view hview f
        · rw [hv, hv']
        · rw [hv, hv']
        · obtain rfl : v = v' := by simpa [FieldApart, hfield] using hapart
          rw [hv, hv']
  | last => simp [Expr.eval, h.isLast]
  | not e ih => simp [Expr.eval, ih he]
  | is e text ih => simp [Expr.eval, ih he]
  | and a b iha ihb =>
      obtain ⟨ha, hb⟩ : a.isCommon = true ∧ b.isCommon = true := by
        simpa [Expr.isCommon] using he
      simp [Expr.eval, iha ha, ihb hb]
  | or a b iha ihb =>
      obtain ⟨ha, hb⟩ : a.isCommon = true ∧ b.isCommon = true := by
        simpa [Expr.isCommon] using he
      simp [Expr.eval, iha ha, ihb hb]

/-- An expression for something common is demanded alike in both languages. -/
theorem demand_eq (h : LanguageApart s s') (he : e.isCommon = true) : e.demand s = e.demand s' := by
  rw [Expr.demand, Expr.demand, h.eval_eq he]

/-- An expression for something common holds in both languages or in none. -/
theorem holds_eq (h : LanguageApart s s') (he : e.isCommon = true) : e.holds s = e.holds s' := by
  rw [Expr.holds, Expr.holds, h.demand_eq he]

/-- The views of a file in the two languages. -/
theorem demand_of_views (h : LanguageApart s s') (he : e.isOfKind .views = true)
    (hv : e.demand s = .ok v) :
    ∃ vs vs', v = .list vs ∧ e.demand s' = .ok (.list vs') ∧ List.Forall₂ ViewsApart vs vs' := by
  obtain ⟨hnone, -⟩ | ⟨n, w, w', hkind, hw, hw', hbound⟩ := h.eval_of_isOfKind he
  · rw [Expr.demand, hnone] at hv
    cases hv
  · rw [BoundApart, hkind] at hbound
    obtain ⟨vs, vs', rfl, rfl, hvs⟩ := hbound
    rw [Expr.demand, hw] at hv
    rw [Expr.demand, hw']
    exact ⟨vs, vs', (Except.ok.inj hv).symm, rfl, hvs⟩

/-- A repetition that asks for nothing that differs has its turns for the same members. -/
theorem chosenFrom_eq {condition : Option Expr} (h : LanguageApart s s')
    (hname : kindOf name = .common) (hcondition : condition.all Expr.isCommon = true)
    (members : List Value) :
    chosenFrom s name condition members = chosenFrom s' name condition members := by
  cases condition with
  | none => rfl
  | some c =>
      have hholds : (fun v => c.holds (s.bind name v false)) =
          fun v => c.holds (s'.bind name v false) :=
        funext fun v => (h.bind (.same hname v) false).holds_eq hcondition
      rw [chosenFrom, chosenFrom, hholds]

/-- What asks first of all whether there are types is false without them. -/
theorem eval_of_asksLanguage (h : LanguageApart s s') (he : e.asksLanguage = true)
    (hv : e.eval s = .ok (some v)) : e.eval s' = .ok (some (.bool false)) := by
  induction e generalizing v with
  | name n =>
      have hkind : kindOf n = .language := by simpa [Expr.asksLanguage] using he
      rw [Expr.eval] at hv ⊢
      obtain ⟨hnone, -⟩ | ⟨_, v', -, hv', hbound⟩ := h.bindings.lookup n
      · rw [hnone] at hv
        cases hv
      · obtain rfl : v' = .bool false := by simpa [BoundApart, hkind] using hbound
        rw [hv']
  | and a b iha _ =>
      rw [Expr.eval, Result.bind_eq_ok_iff] at hv
      obtain ⟨found, hfound, hv⟩ := hv
      cases found with
      | none => cases hv
      | some w =>
          rw [Expr.eval, iha he hfound]
          rfl
  | _ => cases he

/-- A condition that asks so does not hold without types. -/
theorem holds_of_asksLanguage {holds : Bool} (h : LanguageApart s s')
    (he : e.asksLanguage = true) (hholds : e.holds s = .ok holds) : e.holds s' = .ok false := by
  simp only [Expr.holds, Expr.demand, Result.bind_eq_ok_iff] at hholds
  obtain ⟨_, ⟨found, hfound, hdemand⟩, -⟩ := hholds
  cases found with
  | none => cases hdemand
  | some v =>
      rw [Expr.holds, Expr.demand, h.eval_of_asksLanguage he hfound]
      rfl

end LanguageApart

/-- What asks first of all whether there are types asks for something that differs. -/
theorem isCommon_eq_false_of_asksLanguage (h : e.asksLanguage = true) : e.isCommon = false := by
  induction e with
  | name n =>
      have hkind : kindOf n = .language := by simpa [Expr.asksLanguage] using h
      simp [Expr.isCommon, hkind]
  | and a b iha _ => simp [Expr.isCommon, iha h]
  | _ => cases h

/-! ### What is left -/

/-- A text of which something may be left out, but nothing if it comes from what is common. -/
structure LeftOut (common : Bool) (text text' : Text) : Prop where
  sublist : text'.Sublist text
  same : common = true → text' = text

/-- Nothing need be left out of a text. -/
theorem LeftOut.refl (common : Bool) (text : Text) : LeftOut common text text :=
  ⟨.refl text, fun _ => rfl⟩

/-- Texts from a row of parts, one behind the other. -/
theorem LeftOut.append {common more : Bool} {rest rest' : Text} (h : LeftOut common text text')
    (hrest : LeftOut more rest rest') :
    LeftOut (common && more) (text ++ rest) (text' ++ rest') where
  sublist := h.sublist.append hrest.sublist
  same hcommon := by
    rw [Bool.and_eq_true] at hcommon
    rw [h.same hcommon.1, hrest.same hcommon.2]

/-- Texts from the turns of a repetition, one behind the other. -/
theorem LeftOut.flatten {common : Bool} {texts texts' : List Text}
    (h : List.Forall₂ (LeftOut common) texts texts') :
    LeftOut common texts.flatten texts'.flatten := by
  induction h with
  | nil => exact .refl common []
  | cons htext _ ih => simpa using htext.append ih

/-- Less is said of what comes from more parts. -/
theorem LeftOut.mono {common less : Bool} (h : LeftOut common text text')
    (hless : less = true → common = true) : LeftOut less text text' :=
  ⟨h.sublist, fun hcommon => h.same (hless hcommon)⟩

/-- Turns for members that belong together. -/
theorem forall₂_turns {r : Value → Value → Prop} {vs vs' : List Value}
    (h : List.Forall₂ r vs vs') :
    List.Forall₂ (fun turn turn' => r turn.1 turn'.1 ∧ turn.2 = turn'.2) (turns vs)
      (turns vs') := by
  induction h with
  | nil => exact .nil
  | cons hv hvs ih =>
      refine .cons ⟨hv, ?_⟩ ih
      cases hvs <;> rfl

/-- A signature is written without its types. -/
theorem exists_renderPart_of_isSignature (h : LanguageApart s s') (he : e.isSignature = true)
    (htext : renderPart s (.value e) = .ok text) :
    ∃ text', renderPart s' (.value e) = .ok text' ∧ text'.Sublist text := by
  cases e with
  | field e f =>
      rw [Expr.isSignature, Bool.and_eq_true] at he
      obtain ⟨hview, hfield⟩ := he
      obtain ⟨v, hv, htext⟩ := renderPart_value_eq_ok_iff.mp htext
      obtain ⟨hnone, -⟩ | ⟨hnone, -⟩ | ⟨w, v', hw, hv', hapart⟩ := h.eval_view hview f
      · cases hnone.symm.trans hv
      · cases hnone.symm.trans hv
      · obtain rfl : w = v := by simpa [hw] using hv
        rw [FieldApart, if_pos hfield] at hapart
        obtain ⟨written, left, rfl, rfl, hleft⟩ := hapart
        obtain rfl : written = text := Except.ok.inj htext
        exact ⟨left, renderPart_value_eq_ok_iff.mpr ⟨_, hv', rfl⟩, hleft⟩
  | _ => cases he

mutual

/-- What a part leaves without types. -/
theorem exists_renderPart : ∀ (p : Part) {s s' : Scope} {text : Text}, LanguageApart s s' →
    p.isErasable = true → renderPart s p = .ok text →
      ∃ text', renderPart s' p = .ok text' ∧ LeftOut p.isCommon text text'
  | .text t, _, _, _, _, _, htext => by
      obtain rfl := Except.ok.inj (renderPart_text.symm.trans htext)
      exact ⟨_, renderPart_text, .refl _ _⟩
  | .value e, s, s', text, h, hp, htext => by
      rw [Part.isErasable, Bool.or_eq_true] at hp
      cases hcommon : e.isCommon with
      | true =>
          rw [renderPart, h.demand_eq hcommon] at htext
          exact ⟨text, by rw [renderPart, htext], .refl _ _⟩
      | false =>
          have hsignature : e.isSignature = true := by simpa [hcommon] using hp
          obtain ⟨text', htext', hleft⟩ := exists_renderPart_of_isSignature h hsignature htext
          exact ⟨text', htext', hleft, fun hfalse => by simp [Part.isCommon, hcommon] at hfalse⟩
  | .joined e separator, s, s', text, h, hp, htext => by
      rw [renderPart, h.demand_eq hp] at htext
      exact ⟨text, by rw [renderPart, htext], .refl _ _⟩
  | .choice condition yes no, s, s', text, h, hp, htext => by
      simp only [Part.isErasable, Bool.or_eq_true, Bool.and_eq_true, List.isEmpty_iff] at hp
      rw [renderPart, Result.bind_eq_ok_iff] at htext
      obtain ⟨holds, hholds, htext⟩ := htext
      obtain ⟨⟨hcondition, hyes⟩, hno⟩ | ⟨hlanguage, rfl⟩ := hp
      · rw [h.holds_eq hcondition] at hholds
        have hbranch : ∃ text', renderParts s' (if holds then yes else no) = .ok text' ∧
            LeftOut (Part.isCommon (.choice condition yes no)) text text' := by
          cases holds with
          | true =>
              obtain ⟨text', htext', hleft⟩ := exists_renderParts yes h hyes htext
              exact ⟨text', htext', hleft.mono fun hp => by simp_all [Part.isCommon]⟩
          | false =>
              obtain ⟨text', htext', hleft⟩ := exists_renderParts no h hno htext
              exact ⟨text', htext', hleft.mono fun hp => by simp_all [Part.isCommon]⟩
        obtain ⟨text', htext', hleft⟩ := hbranch
        refine ⟨text', ?_, hleft⟩
        rw [renderPart, hholds, Result.ok_bind]
        cases holds <;> exact htext'
      · -- the row is written with types only
        refine ⟨[], ?_, List.nil_sublist text, fun hp => ?_⟩
        · rw [renderPart, h.holds_of_asksLanguage hlanguage hholds]
          rfl
        · simp [Part.isCommon, isCommon_eq_false_of_asksLanguage hlanguage] at hp
  | .each name e condition body, s, s', text, h, hp, htext => by
      simp only [Part.isErasable, Bool.and_eq_true, Bool.or_eq_true, beq_iff_eq,
        Option.isNone_iff_eq_none] at hp
      obtain ⟨hp, hbody⟩ := hp
      obtain ⟨v, members, chosen, texts, hv, hmembers, hchosen, htexts, rfl⟩ :=
        renderPart_each_eq_ok_iff.mp htext
      have hturns {chosen' : List Value}
          (hchosen' : List.Forall₂ (BoundApart name) chosen chosen') :
          ∃ texts', ((turns chosen').mapM fun turn =>
              renderParts (s'.bind name turn.1 turn.2) body) = .ok texts' ∧
            List.Forall₂ (LeftOut (areCommon body)) texts texts' := by
        refine Result.exists_mapM_of_forall₂ (forall₂_turns hchosen') ?_ htexts
        rintro ⟨v, isLast⟩ ⟨v', isLast'⟩ here ⟨hv, rfl⟩ hhere
        exact exists_renderParts body (h.bind hv isLast) hbody hhere
      obtain ⟨⟨hname, he⟩, hcondition⟩ | ⟨⟨hname, he⟩, rfl⟩ := hp
      · obtain ⟨texts', htexts', hleft⟩ :=
          hturns (List.forall₂_same.mpr fun v _ => .same hname v)
        refine ⟨texts'.flatten, renderPart_each_eq_ok_iff.mpr ⟨v, members, chosen, texts',
          h.demand_eq he ▸ hv, hmembers, h.chosenFrom_eq hname hcondition members ▸ hchosen,
          htexts', rfl⟩, ?_⟩
        exact (LeftOut.flatten hleft).mono fun hp => by simp_all [Part.isCommon]
      · -- the members are the views of the file
        obtain rfl := Except.ok.inj hchosen
        obtain ⟨vs, vs', rfl, hvs', hvs⟩ := h.demand_of_views he hv
        obtain rfl : vs = members := Except.ok.inj hmembers
        obtain ⟨texts', htexts', hleft⟩ := hturns (hvs.imp fun v v' hv => .view hname hv)
        refine ⟨texts'.flatten, renderPart_each_eq_ok_iff.mpr ⟨.list vs', vs', vs', texts', hvs',
          rfl, rfl, htexts', rfl⟩, ?_⟩
        exact (LeftOut.flatten hleft).mono fun hp => by simp_all [Part.isCommon]

/-- **What a row of parts leaves without types.** Where a row that only leaves something out can be
written with types, it can be written without, and nothing else is left out. -/
theorem exists_renderParts : ∀ (parts : List Part) {s s' : Scope} {text : Text},
    LanguageApart s s' → areErasable parts = true → renderParts s parts = .ok text →
      ∃ text', renderParts s' parts = .ok text' ∧ LeftOut (areCommon parts) text text'
  | [], _, _, _, _, _, htext => by
      obtain rfl := Except.ok.inj htext
      exact ⟨[], rfl, .refl _ _⟩
  | p :: rest, _, _, _, h, hparts, htext => by
      rw [areErasable, Bool.and_eq_true] at hparts
      obtain ⟨here, behind, hhere, hbehind, rfl⟩ := renderParts_cons_eq_ok_iff.mp htext
      obtain ⟨here', hhere', hleft⟩ := exists_renderPart p h hparts.1 hhere
      obtain ⟨behind', hbehind', hrest⟩ := exists_renderParts rest h hparts.2 hbehind
      exact ⟨here' ++ behind', renderParts_cons_eq_ok_iff.mpr ⟨_, _, hhere', hbehind', rfl⟩,
        hleft.append hrest⟩

end

/-- A template that only leaves something out can be written for a view without types where it can
be for the one with types. -/
theorem exists_render {parts : List Part} {view view' : Value}
    (hviews : RecordsApart BoundApart view view') (hparts : areErasable parts = true)
    (h : render parts view = .ok text) :
    ∃ text', render parts view' = .ok text' ∧ text'.Sublist text := by
  obtain ⟨fields, fields', rfl, rfl, hfields⟩ := hviews
  rw [render, scopeOf_record] at h ⊢
  have hscopes : LanguageApart ⟨fields, none⟩ ⟨fields', none⟩ := ⟨hfields, rfl⟩
  obtain ⟨text', htext', hleft⟩ := exists_renderParts parts hscopes hparts h
  exact ⟨text', htext', hleft.sublist⟩

/-! ### The file of types -/

/-- What the file of types starts with. -/
def typesFront : List Part :=
  [line "/** @module types */", generatedLine, line ""] ++ ownTypeComments

/-- What stands in the namespace of the declared types. -/
def namespaceBody : List Part :=
  forEach "decl" (var "declarations") typeDeclaration :: supportTypes

/-- What stands behind the namespace. -/
def typesComments : List Part :=
  [forEach "decl" (var "declarations") typeComment]

/-- The file of types in its three pieces, of which the second is for types only. -/
theorem types_eq :
    types = typesFront ++ optional (var "typed") typesNamespace :: typesComments := rfl

/-- The namespace is what stands in it between its opening and its closing line. -/
theorem typesNamespace_eq : typesNamespace =
    (.text "namespace api \x7b\n" :: namespaceBody) ++ [.text "\x7d\n", .text "\n"] := rfl

/-- A row with a line at its end ends a line. -/
theorem getLast?_of_renderParts {parts : List Part} {last : Text} (hlast : [line last] <:+ parts)
    (h : renderParts s parts = .ok text) : text.getLast? = some (.char '\n') := by
  obtain ⟨before, rfl⟩ := hlast
  obtain ⟨here, rest, -, hrest, rfl⟩ := renderParts_append_eq_ok_iff.mp h
  obtain ⟨_, hnothing, rfl⟩ := exists_append_of_renderParts hrest
  obtain rfl := Except.ok.inj hnothing
  rw [List.append_nil, ← List.append_assoc]
  exact List.getLast?_concat

/-- What the file of types starts with ends a line. -/
theorem getLast?_of_typesFront (h : renderParts s typesFront = .ok text) :
    text.getLast? = some (.char '\n') := by
  have hlast : [line ""] <:+ responseComment := ⟨responseComment.dropLast, rfl⟩
  exact getLast?_of_renderParts
    ((hlast.trans (List.suffix_append _ _)).trans (List.suffix_append _ _)) h

/-- What stands in the namespace ends a line. -/
theorem getLast?_of_namespaceBody (h : renderParts s namespaceBody = .ok text) :
    text.getLast? = some (.char '\n') := by
  have hlast : [line "\x7d"] <:+ serviceMetaType := ⟨serviceMetaType.dropLast, rfl⟩
  exact getLast?_of_renderParts
    ((hlast.trans (List.suffix_append _ _)).trans (List.suffix_cons _ _)) h

/-- The namespace stands between its braces, with an empty line behind it. -/
theorem exists_body_of_typesNamespace (h : renderParts s typesNamespace = .ok text) :
    ∃ body, renderParts s namespaceBody = .ok body ∧
      text = "namespace api \x7b\n" ++ body ++ "\x7d\n\n" := by
  rw [typesNamespace_eq] at h
  obtain ⟨_, _, hopened, hclosed, rfl⟩ := renderParts_append_eq_ok_iff.mp h
  obtain ⟨body, hbody, rfl⟩ := exists_append_of_renderParts hopened
  obtain rfl := Except.ok.inj hclosed
  exact ⟨body, hbody, rfl⟩

/-- What stands for the language with types only. -/
theorem renderPart_optional_typed {typed : Bool}
    (h : s.bindings.lookup (Text.ofString "typed") = some (.bool typed)) (parts : List Part) :
    renderPart s (optional (var "typed") parts) =
      if typed then renderParts s parts else .ok [] := by
  have hholds : (var "typed").holds s = .ok typed := by
    rw [Expr.holds, Expr.demand, var, Expr.eval, h]
    rfl
  rw [optional, renderPart, hholds]
  cases typed <;> rfl

/-- **The file of types in the two languages.** With types it has the namespace in it, and without
it is the same text but for that. -/
theorem renderParts_types (h : LanguageApart s s')
    (htyped : s.bindings.lookup (Text.ofString "typed") = some (.bool true))
    (htext : renderParts s types = .ok text) :
    ∃ front block behind, renderParts s typesFront = .ok front ∧
      renderParts s typesNamespace = .ok block ∧ renderParts s typesComments = .ok behind ∧
      text = front ++ (block ++ behind) ∧ renderParts s' types = .ok (front ++ behind) := by
  have huntyped : s'.bindings.lookup (Text.ofString "typed") = some (.bool false) := by
    obtain ⟨hnone, -⟩ | ⟨_, v', -, hv', hbound⟩ := h.bindings.lookup (Text.ofString "typed")
    · cases hnone.symm.trans htyped
    · exact hv'.trans (congrArg some hbound)
  rw [types_eq] at htext ⊢
  obtain ⟨front, _, hfront, hrest, rfl⟩ := renderParts_append_eq_ok_iff.mp htext
  obtain ⟨block, behind, hblock, hbehind, rfl⟩ := renderParts_cons_eq_ok_iff.mp hrest
  rw [renderPart_optional_typed htyped, if_pos rfl] at hblock
  refine ⟨front, block, behind, hfront, hblock, hbehind, rfl, ?_⟩
  have hsame {parts : List Part} {text : Text} (hparts : areErasable parts = true)
      (hcommon : areCommon parts = true) (htext : renderParts s parts = .ok text) :
      renderParts s' parts = .ok text := by
    obtain ⟨text', htext', hleft⟩ := exists_renderParts parts h hparts htext
    exact hleft.same hcommon ▸ htext'
  refine renderParts_append_eq_ok_iff.mpr ⟨front, behind, hsame (by decide +kernel)
    (by decide +kernel) hfront, renderParts_cons_eq_ok_iff.mpr ⟨[], behind, ?_, hsame
    (by decide +kernel) (by decide +kernel) hbehind, rfl⟩, rfl⟩
  rw [renderPart_optional_typed huntyped]
  rfl

/-! ### The templates of the client -/

/-- Without types something is only left out of the file of a group. -/
theorem areErasable_operations : areErasable operations = true := by decide +kernel

/-- Without types something is only left out of the file of types. -/
theorem areErasable_types : areErasable types = true := by decide +kernel

/-- Without types something is only left out of the file of the service. -/
theorem areErasable_descriptor : areErasable descriptor = true := by decide +kernel

/-- Without types something is only left out of the file of actions. -/
theorem areErasable_actions : areErasable actions = true := by decide +kernel

end ClientScribe.Template
