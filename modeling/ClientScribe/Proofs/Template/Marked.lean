import ClientScribe.Proofs.Agreement
import ClientScribe.Proofs.Template.Rendering

/-!
# What a Template Writes of Its Own

A file is written partly by its template and partly from the view. In a marked text every code point
says which of the two it comes from. Rendering and indenting are followed here with marks:

* `markParts` marks what a row of parts writes, and without its marks that is the text of the row
  (`agree_markParts`);
* `Marked.reindent` indents a marked text, and without its marks that is the indented text
  (`plain_reindent`);
* `takenParts` collects the texts that a row of parts takes from the view. Where all that a template
  writes of its own passes a test, a file passes it exactly if these texts do (`agree_takenParts`).
-/

namespace ClientScribe.Template

open Document (Value)
open Result (Agree)

/-- A text in which every code point says whether it was taken from a view. -/
abbrev Marked := List (CodePoint × Bool)

/-- A text of a template. -/
def own (t : Text) : Marked := t.map (·, false)

/-- A text from a view. -/
def taken (t : Text) : Marked := t.map (·, true)

/-- The text without its marks. -/
def Marked.plain (m : Marked) : Text := m.map Prod.fst

mutual

/-- What a part writes, with marks. -/
def markPart (s : Scope) : Part → Result Marked
  | .text t => .ok (own t)
  | .value e => do return taken (← (← e.demand s).text)
  | .joined e separator => do
    let texts ← (← (← e.demand s).members).mapM Value.text
    return (own separator).intercalate (texts.map taken)
  | .choice condition yes no => do
    if ← condition.holds s then markParts s yes else markParts s no
  | .each name e condition body => do
    let members ← (← e.demand s).members
    let chosen ←
      match condition with
      | none => pure members
      | some condition => members.filterM fun v => condition.holds (s.bind name v false)
    let marks ← (turns chosen).mapM fun (v, isLast) => markParts (s.bind name v isLast) body
    return marks.flatten

/-- What a row of parts writes, with marks. -/
def markParts (s : Scope) : List Part → Result Marked
  | [] => .ok []
  | p :: rest => do
    let here ← markPart s p
    return here ++ (← markParts s rest)

end

variable {s : Scope} {p : Part} {parts more : List Part} {e : Expr} {m : Marked} {text : Text}

/-- Text of the template's own is itself without the marks. -/
@[simp] theorem plain_own (t : Text) : (own t).plain = t := by
  simp [Marked.plain, own, Function.comp_def]

/-- Text from a view is itself without the marks. -/
@[simp] theorem plain_taken (t : Text) : (taken t).plain = t := by
  simp [Marked.plain, taken, Function.comp_def]

/-- Marked texts one behind the other are without the marks what they are one by one. -/
@[simp] theorem plain_append (m m' : Marked) : Marked.plain (m ++ m') = m.plain ++ m'.plain :=
  List.map_append

/-- Joined marked texts are without the marks the joined texts. -/
@[simp] theorem plain_flatten (ms : List Marked) :
    Marked.plain ms.flatten = (ms.map Marked.plain).flatten :=
  List.map_flatten

/-- Marks do not matter between texts. -/
theorem plain_intercalate (separator : Text) (texts : List Text) :
    Marked.plain ((own separator).intercalate (texts.map taken)) =
      Text.intercalate separator texts := by
  induction texts with
  | nil => rfl
  | cons t texts ih =>
      cases texts with
      | nil => simp [Text.intercalate]
      | cons u texts =>
          simp only [List.map_cons, List.intercalate_cons_cons, plain_append, plain_own,
            plain_taken, Text.intercalate] at ih ⊢
          rw [ih]

/-! ### Rendering -/

/-- A marked text is a text without its marks. -/
abbrev Marks (text : Text) (m : Marked) : Prop := m.plain = text

mutual

/-- What a part writes, and the same with marks. -/
theorem agree_markPart : ∀ (p : Part) (s : Scope), Agree Marks (renderPart s p) (markPart s p)
  | .text t, s => by
      rw [renderPart, markPart]
      exact .ok (plain_own t)
  | .value e, s => by
      rw [renderPart, markPart]
      refine .bind_same _ fun v => ?_
      cases v.text with
      | error e => exact .error e
      | ok t => exact .ok (plain_taken t)
  | .joined e separator, s => by
      rw [renderPart, markPart]
      exact .bind_same _ fun v => .bind_same _ fun members => .bind_same _ fun texts =>
        .ok (plain_intercalate separator texts)
  | .choice condition yes no, s => by
      rw [renderPart, markPart]
      refine .bind_same _ fun holds => ?_
      split
      · exact agree_markParts yes s
      · exact agree_markParts no s
  | .each name e condition body, s => by
      have hturns (chosen : List Value) :
          Agree Marks
            ((turns chosen).mapM (fun (v, isLast) => renderParts (s.bind name v isLast) body) >>=
              fun texts => pure texts.flatten)
            ((turns chosen).mapM (fun (v, isLast) => markParts (s.bind name v isLast) body) >>=
              fun marks => pure marks.flatten) := by
        refine (Agree.mapM _ fun turn _ => agree_markParts body _).bind fun texts marks h => ?_
        refine .ok ?_
        rw [Marks, plain_flatten]
        congr 1
        induction h with
        | nil => rfl
        | cons h _ ih => rw [List.map_cons, h, ih]
      rw [renderPart, markPart]
      refine .bind_same _ fun v => .bind_same _ fun members => ?_
      cases condition with
      | none => exact .bind_same _ hturns
      | some c => exact .bind_same _ hturns

/-- What a row of parts writes, and the same with marks. -/
theorem agree_markParts : ∀ (parts : List Part) (s : Scope),
    Agree Marks (renderParts s parts) (markParts s parts)
  | [], s => by
      rw [renderParts, markParts]
      exact .ok rfl
  | p :: rest, s => by
      rw [renderParts, markParts]
      refine (agree_markPart p s).bind fun here m hhere => ?_
      refine (agree_markParts rest s).bind fun behind m' hbehind => .ok ?_
      rw [Marks, plain_append, hhere, hbehind]

end

/-- The marked text of a row is that of its first part and then that of the others. -/
theorem markParts_cons_eq_ok_iff : markParts s (p :: parts) = .ok m ↔
    ∃ here rest, markPart s p = .ok here ∧ markParts s parts = .ok rest ∧ m = here ++ rest := by
  simp only [markParts, Result.bind_eq_ok_iff, Result.pure_def, Except.ok.injEq]
  constructor
  · rintro ⟨here, hhere, rest, hrest, rfl⟩
    exact ⟨here, rest, hhere, hrest, rfl⟩
  · rintro ⟨here, rest, hhere, hrest, rfl⟩
    exact ⟨here, hhere, rest, hrest, rfl⟩

/-- The marked text of two rows is that of the first one and then that of the second one. -/
theorem markParts_append_eq_ok_iff : markParts s (parts ++ more) = .ok m ↔
    ∃ here rest, markParts s parts = .ok here ∧ markParts s more = .ok rest ∧
      m = here ++ rest := by
  induction parts generalizing m with
  | nil => simp [markParts]
  | cons p parts ih =>
      simp only [List.cons_append, markParts_cons_eq_ok_iff, ih]
      constructor
      · rintro ⟨first, _, hfirst, ⟨here, rest, hhere, hrest, rfl⟩, rfl⟩
        exact ⟨first ++ here, rest, ⟨first, here, hfirst, hhere, rfl⟩, hrest, by simp⟩
      · rintro ⟨_, rest, ⟨first, here, hfirst, hhere, rfl⟩, hrest, rfl⟩
        exact ⟨first, here ++ rest, hfirst, ⟨here, rest, hhere, hrest, rfl⟩, by simp⟩

/-- A part that writes a value takes its text from the view. -/
theorem exists_of_markPart_value (h : markPart s (.value e) = .ok m) :
    ∃ t, renderPart s (.value e) = .ok t ∧ m = taken t := by
  rw [markPart] at h
  obtain ⟨v, hv, h⟩ := Result.bind_eq_ok_iff.mp h
  obtain ⟨t, ht, h⟩ := Result.bind_eq_ok_iff.mp h
  exact ⟨t, by rw [renderPart, hv]; exact ht, (Except.ok.inj h).symm⟩

/-- A choice writes one of its two rows, as its condition holds or not. -/
theorem exists_of_markPart_choice {yes no : List Part}
    (h : markPart s (.choice e yes no) = .ok m) :
    ∃ v, e.eval s = .ok (some v) ∧ markParts s (if v.isTrue then yes else no) = .ok m := by
  rw [markPart] at h
  obtain ⟨holds, hholds, h⟩ := Result.bind_eq_ok_iff.mp h
  obtain ⟨v, hv, hholds⟩ := Result.bind_eq_ok_iff.mp hholds
  obtain ⟨found, hfound, hv⟩ := Result.bind_eq_ok_iff.mp hv
  cases found with
  | none => cases hv
  | some w =>
      obtain rfl := Except.ok.inj hv
      obtain rfl := Except.ok.inj hholds
      exact ⟨w, hfound, by split at h <;> simp_all⟩

/-- A repetition writes its parts once for each member for which it has a turn. -/
theorem exists_of_markPart_each {name : Text} {condition : Option Expr} {body : List Part}
    (h : markPart s (.each name e condition body) = .ok m) :
    ∃ v members chosen marks, e.demand s = .ok v ∧ v.members = .ok members ∧
      chosenFrom s name condition members = .ok chosen ∧
      ((turns chosen).mapM fun turn => markParts (s.bind name turn.1 turn.2) body) = .ok marks ∧
      m = marks.flatten := by
  have hmark : markPart s (.each name e condition body) = (do
      let v ← e.demand s
      let members ← v.members
      let chosen ← chosenFrom s name condition members
      let marks ← (turns chosen).mapM fun turn => markParts (s.bind name turn.1 turn.2) body
      return marks.flatten) := by
    rw [markPart]
    cases condition <;> rfl
  simp only [hmark, Result.bind_eq_ok_iff, Result.pure_def, Except.ok.injEq] at h
  obtain ⟨v, hv, members, hmembers, chosen, hchosen, marks, hmarks, rfl⟩ := h
  exact ⟨v, members, chosen, marks, hv, hmembers, hchosen, hmarks, rfl⟩

/-! ### Indentation -/

/-- A marked text with the steps at the start of every line written with another unit. -/
def Marked.indentFrom (unit : Text) (atStart : Bool) : Marked → Marked
  | [] => []
  | (.char ' ', b) :: (.char ' ', b') :: rest =>
    if atStart then unit.map (·, b) ++ indentFrom unit true rest
    else (.char ' ', b) :: (.char ' ', b') :: indentFrom unit false rest
  | x :: rest => x :: indentFrom unit (x.1 == .char '\n') rest

/-- A marked text with every line indented by steps of another unit. -/
def Marked.reindent (m : Marked) (unit : Text) : Marked :=
  if unit == step then m else m.indentFrom unit true

/-- Without its marks a marked text that is indented from somewhere on a line is that text. -/
theorem plain_indentFrom (unit : Text) (atStart : Bool) (m : Marked) :
    (m.indentFrom unit atStart).plain = Template.indentFrom unit atStart m.plain := by
  induction atStart, m using Marked.indentFrom.induct with
  | case1 atStart => rfl
  | case2 b b' rest ih =>
      rw [Marked.indentFrom, if_pos rfl, plain_append, ih]
      simp [Marked.plain, Template.indentFrom, Function.comp_def]
  | case3 atStart b b' rest hstart ih =>
      rw [Marked.indentFrom, if_neg hstart]
      simp only [Marked.plain, List.map_cons] at ih ⊢
      rw [ih, Template.indentFrom, if_neg hstart]
      rfl
  | case4 atStart x rest hstep ih =>
      obtain ⟨c, b⟩ := x
      have hhead : c ≠ .char ' ' ∨ (Marked.plain rest).head? ≠ some (.char ' ') := by
        refine or_iff_not_imp_left.mpr fun hc hhead => ?_
        cases rest with
        | nil => cases hhead
        | cons y rest =>
            obtain ⟨d, b'⟩ := y
            obtain rfl : d = .char ' ' := by simpa [Marked.plain] using hhead
            obtain rfl := not_not.mp hc
            exact hstep b b' rest rfl rfl
      rw [Marked.indentFrom.eq_3 _ _ _ _ hstep]
      simp only [Marked.plain, List.map_cons] at ih hhead ⊢
      rw [ih, indentFrom_cons hhead]

/-- Indenting a marked text indents the text. -/
theorem plain_reindent (m : Marked) (unit : Text) :
    (m.reindent unit).plain = Template.reindent m.plain unit := by
  rw [Marked.reindent, Template.reindent]
  split
  · rfl
  · exact plain_indentFrom unit true m

/-! ### Code points of a kind -/

mutual

/-- Whether all code points that a part writes of its own pass a test. -/
def Part.ownAll (p : CodePoint → Bool) : Part → Bool
  | .text t => t.all p
  | .value _ => true
  | .joined _ separator => separator.all p
  | .choice _ yes no => ownAll p yes && ownAll p no
  | .each _ _ _ body => ownAll p body

/-- Whether all code points that a row of parts writes of its own pass a test. -/
def ownAll (p : CodePoint → Bool) : List Part → Bool
  | [] => true
  | part :: rest => part.ownAll p && ownAll p rest

end

mutual

/-- The texts that a part takes from the view. -/
def takenPart (s : Scope) : Part → Result (List Text)
  | .text _ => .ok []
  | .value e => do return [← (← e.demand s).text]
  | .joined e _ => do (← (← e.demand s).members).mapM Value.text
  | .choice condition yes no => do
    if ← condition.holds s then takenParts s yes else takenParts s no
  | .each name e condition body => do
    let members ← (← e.demand s).members
    let chosen ←
      match condition with
      | none => pure members
      | some condition => members.filterM fun v => condition.holds (s.bind name v false)
    let texts ← (turns chosen).mapM fun (v, isLast) => takenParts (s.bind name v isLast) body
    return texts.flatten

/-- The texts that a row of parts takes from the view. -/
def takenParts (s : Scope) : List Part → Result (List Text)
  | [] => .ok []
  | part :: rest => do
    let here ← takenPart s part
    return here ++ (← takenParts s rest)

end

/-- The code points of a text pass a test exactly if those of some texts do. -/
abbrev Passes (p : CodePoint → Bool) (text : Text) (texts : List Text) : Prop :=
  text.all p = texts.all fun t => t.all p

/-- A joined row passes a test exactly if its texts do, once what stands between them does. -/
theorem passes_intercalate {p : CodePoint → Bool} {separator : Text} (h : separator.all p = true)
    (texts : List Text) : Passes p (Text.intercalate separator texts) texts := by
  induction texts with
  | nil => rfl
  | cons t texts ih =>
      cases texts with
      | nil => simp [Passes, Text.intercalate]
      | cons u texts =>
          simp only [Passes, Text.intercalate, List.intercalate_cons_cons, List.all_append, h,
            Bool.and_true, List.all_cons] at ih ⊢
          rw [ih]

mutual

/-- What a part writes passes a test exactly if what it takes from the view does. -/
theorem agree_takenPart (p : CodePoint → Bool) : ∀ (part : Part) (s : Scope),
    part.ownAll p = true → Agree (Passes p) (renderPart s part) (takenPart s part)
  | .text t, s, h => by
      rw [renderPart, takenPart]
      exact .ok h
  | .value e, s, _ => by
      rw [renderPart, takenPart]
      refine .bind_same _ fun v => ?_
      cases v.text with
      | error e => exact .error e
      | ok t => exact .ok (by simp [Passes])
  | .joined e separator, s, h => by
      rw [renderPart, takenPart]
      refine .bind_same _ fun v => .bind_same _ fun members => ?_
      cases members.mapM Value.text with
      | error e => exact .error e
      | ok texts => exact .ok (passes_intercalate h texts)
  | .choice condition yes no, s, h => by
      obtain ⟨hyes, hno⟩ := Bool.and_eq_true _ _ ▸ h
      rw [renderPart, takenPart]
      refine .bind_same _ fun holds => ?_
      split
      · exact agree_takenParts p yes s hyes
      · exact agree_takenParts p no s hno
  | .each name e condition body, s, h => by
      have hturns (chosen : List Value) :
          Agree (Passes p)
            ((turns chosen).mapM (fun (v, isLast) => renderParts (s.bind name v isLast) body) >>=
              fun texts => pure texts.flatten)
            ((turns chosen).mapM (fun (v, isLast) => takenParts (s.bind name v isLast) body) >>=
              fun texts => pure texts.flatten) := by
        refine (Agree.mapM _ fun turn _ => agree_takenParts p body _ h).bind fun ts taken h => ?_
        refine .ok ?_
        induction h with
        | nil => rfl
        | cons h _ ih =>
          simp only [Passes, List.flatten_cons, List.all_append] at h ih ⊢
          rw [h, ih]
      rw [renderPart, takenPart]
      refine .bind_same _ fun v => .bind_same _ fun members => ?_
      cases condition with
      | none => exact .bind_same _ hturns
      | some c => exact .bind_same _ hturns

/-- **What a row of parts writes** passes a test exactly if what it takes from the view does. -/
theorem agree_takenParts (p : CodePoint → Bool) : ∀ (parts : List Part) (s : Scope),
    ownAll p parts = true → Agree (Passes p) (renderParts s parts) (takenParts s parts)
  | [], s, _ => by
      rw [renderParts, takenParts]
      exact .ok rfl
  | part :: rest, s, h => by
      obtain ⟨hpart, hrest⟩ := Bool.and_eq_true _ _ ▸ h
      rw [renderParts, takenParts]
      refine (agree_takenPart p part s hpart).bind fun here taken hhere => ?_
      refine (agree_takenParts p rest s hrest).bind fun behind taken' hbehind => .ok ?_
      rw [Passes, List.all_append, List.all_append, hhere, hbehind]

end

/-- Another unit of indentation passes a test where the text does, once the unit and blanks do. -/
theorem all_reindent {p : CodePoint → Bool} (hspace : p (.char ' ') = true)
    {unit : Text} (hunit : unit.all p = true) (text : Text) :
    (reindent text unit).all p = text.all p := by
  have hfrom (atStart : Bool) (text : Text) :
      (indentFrom unit atStart text).all p = text.all p := by
    induction atStart, text using indentFrom.induct with
    | case1 atStart => rfl
    | case2 text ih => simp [indentFrom, hunit, hspace, ih]
    | case3 atStart text hstart ih =>
        simp [indentFrom, if_neg hstart, step, hspace, ih, Text.ofString, Text.ofChars]
    | case4 atStart c text hc ih =>
        rw [indentFrom.eq_3 _ _ _ _ hc, List.all_cons, List.all_cons, ih]
  unfold reindent
  split
  · rfl
  · exact hfrom true text

end ClientScribe.Template
