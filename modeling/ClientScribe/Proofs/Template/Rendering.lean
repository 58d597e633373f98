import ClientScribe.Proofs.Result
import ClientScribe.Template.Basic

/-!
# What Templates Write

The text of a row of parts is that of its first part and then that of the others, so a fixed text at
the start of a template is the start of every file that is written from it
(`exists_append_of_renderParts`). Another unit of indentation replaces steps only. A text in which
no two spaces stand side by side has none, so it stays as it is (`exists_reindent_append`), and
every line is indented on its own (`reindent_append_of_newline`).
-/

namespace ClientScribe.Template

open Document (Value record)

variable {s : Scope} {p : Part} {parts more : List Part} {text rest unit : Text} {e : Expr}

/-! ### Rows of parts -/

/-- The text of a row is that of its first part and then that of the others. -/
theorem renderParts_cons_eq_ok_iff : renderParts s (p :: parts) = .ok text ↔
    ∃ here rest, renderPart s p = .ok here ∧ renderParts s parts = .ok rest ∧
      text = here ++ rest := by
  simp only [renderParts, Result.bind_eq_ok_iff, Result.pure_def, Except.ok.injEq]
  constructor
  · rintro ⟨here, hhere, rest, hrest, rfl⟩
    exact ⟨here, rest, hhere, hrest, rfl⟩
  · rintro ⟨here, rest, hhere, hrest, rfl⟩
    exact ⟨here, hhere, rest, hrest, rfl⟩

/-- The text of two rows is that of the first one and then that of the second one. -/
theorem renderParts_append_eq_ok_iff : renderParts s (parts ++ more) = .ok text ↔
    ∃ here rest, renderParts s parts = .ok here ∧ renderParts s more = .ok rest ∧
      text = here ++ rest := by
  induction parts generalizing text with
  | nil => simp [renderParts]
  | cons p parts ih =>
      simp only [List.cons_append, renderParts_cons_eq_ok_iff, ih]
      constructor
      · rintro ⟨first, _, hfirst, ⟨here, rest, hhere, hrest, rfl⟩, rfl⟩
        exact ⟨first ++ here, rest, ⟨first, here, hfirst, hhere, rfl⟩, hrest, by simp⟩
      · rintro ⟨_, rest, ⟨first, here, hfirst, hhere, rfl⟩, hrest, rfl⟩
        exact ⟨first, here ++ rest, hfirst, ⟨here, rest, hhere, hrest, rfl⟩, by simp⟩

/-- What a part writes is in the text of its row. -/
theorem exists_infix_of_mem (hp : p ∈ parts) (h : renderParts s parts = .ok text) :
    ∃ here, renderPart s p = .ok here ∧ here <:+: text := by
  induction parts generalizing text with
  | nil => cases hp
  | cons first parts ih =>
      obtain ⟨here, rest, hhere, hrest, rfl⟩ := renderParts_cons_eq_ok_iff.mp h
      obtain rfl | hp := List.mem_cons.mp hp
      · exact ⟨here, hhere, (List.prefix_append here rest).isInfix⟩
      · obtain ⟨inner, hinner, hinfix⟩ := ih hp hrest
        exact ⟨inner, hinner, hinfix.trans (List.suffix_append here rest).isInfix⟩

/-- The template's own text is rendered as it is. -/
@[simp] theorem renderPart_text : renderPart s (.text text) = .ok text := by
  rw [renderPart]

/-- A part that writes a value writes its text. -/
theorem renderPart_value_eq_ok_iff : renderPart s (.value e) = .ok text ↔
    ∃ v, e.eval s = .ok (some v) ∧ v.text = .ok text := by
  simp only [renderPart, Expr.demand, Result.bind_eq_ok_iff]
  constructor
  · rintro ⟨v, ⟨found, hfound, hv⟩, htext⟩
    cases found with
    | none => cases hv
    | some w =>
        obtain rfl := Except.ok.inj hv
        exact ⟨w, hfound, htext⟩
  · rintro ⟨v, hv, htext⟩
    exact ⟨v, ⟨some v, hv, rfl⟩, htext⟩

/-- A choice writes one of its two rows, as its condition holds or not. -/
theorem renderPart_choice_eq_ok_iff {yes no : List Part} :
    renderPart s (.choice e yes no) = .ok text ↔
      ∃ v, e.eval s = .ok (some v) ∧
        renderParts s (if v.isTrue then yes else no) = .ok text := by
  simp only [renderPart, Expr.holds, Expr.demand, Result.bind_eq_ok_iff]
  constructor
  · rintro ⟨holds, ⟨v, ⟨found, hfound, hv⟩, hholds⟩, htext⟩
    cases found with
    | none => cases hv
    | some w =>
        obtain rfl := Except.ok.inj hv
        obtain rfl := Except.ok.inj hholds
        exact ⟨w, hfound, by split at htext <;> simp_all⟩
  · rintro ⟨v, hv, htext⟩
    exact ⟨v.isTrue, ⟨v, ⟨some v, hv, rfl⟩, rfl⟩, by split at htext <;> simp_all⟩

/-- What is written from a row with fixed text in front starts with that text. -/
theorem exists_append_of_renderParts (h : renderParts s (.text text :: parts) = .ok rest) :
    ∃ others, renderParts s parts = .ok others ∧ rest = text ++ others := by
  obtain ⟨here, others, hhere, hothers, rfl⟩ := renderParts_cons_eq_ok_iff.mp h
  obtain rfl := Except.ok.inj (renderPart_text.symm.trans hhere)
  exact ⟨others, hothers, rfl⟩

/-- Every member has its turn, in order. -/
@[simp] theorem map_fst_turns (members : List Value) : (turns members).map Prod.fst = members := by
  induction members with
  | nil => rfl
  | cons v rest ih => rw [turns, List.map_cons, ih]

/-- The members for which a repetition has a turn. -/
def chosenFrom (s : Scope) (name : Text) (condition : Option Expr) (members : List Value) :
    Result (List Value) :=
  match condition with
  | none => .ok members
  | some c => members.filterM fun v => c.holds (s.bind name v false)

/-- A repetition writes its parts once for each of these members. -/
theorem renderPart_each_eq_ok_iff {name : Text} {condition : Option Expr} {body : List Part} :
    renderPart s (.each name e condition body) = .ok text ↔
      ∃ v members chosen texts, e.demand s = .ok v ∧ v.members = .ok members ∧
        chosenFrom s name condition members = .ok chosen ∧
        ((turns chosen).mapM fun turn => renderParts (s.bind name turn.1 turn.2) body) =
          .ok texts ∧
        text = texts.flatten := by
  have hrender : renderPart s (.each name e condition body) = (do
      let v ← e.demand s
      let members ← v.members
      let chosen ← chosenFrom s name condition members
      let texts ← (turns chosen).mapM fun turn => renderParts (s.bind name turn.1 turn.2) body
      return texts.flatten) := by
    rw [renderPart]
    cases condition <;> rfl
  simp only [hrender, Result.bind_eq_ok_iff, Result.pure_def, Except.ok.injEq]
  constructor
  · rintro ⟨v, hv, members, hmembers, chosen, hchosen, texts, htexts, rfl⟩
    exact ⟨v, members, chosen, texts, hv, hmembers, hchosen, htexts, rfl⟩
  · rintro ⟨v, members, chosen, texts, hv, hmembers, hchosen, htexts, rfl⟩
    exact ⟨v, hv, members, hmembers, chosen, hchosen, texts, htexts, rfl⟩

/-- The same for a list that is there. -/
theorem exists_texts_of_each {name : Text} {condition : Option Expr} {body : List Part}
    {members : List Value} (hmembers : e.eval s = .ok (some (.list members)))
    (h : renderPart s (.each name e condition body) = .ok text) :
    ∃ chosen texts, chosenFrom s name condition members = .ok chosen ∧
      ((turns chosen).mapM fun turn => renderParts (s.bind name turn.1 turn.2) body) = .ok texts ∧
      text = texts.flatten := by
  have hdemand : e.demand s = .ok (.list members) := by
    rw [Expr.demand, hmembers]
    rfl
  obtain ⟨v, members', chosen, texts, hv, hmembers', hchosen, htexts, rfl⟩ :=
    renderPart_each_eq_ok_iff.mp h
  obtain rfl := Except.ok.inj (hdemand.symm.trans hv)
  obtain rfl := Except.ok.inj hmembers'
  exact ⟨chosen, texts, hchosen, htexts, rfl⟩

/-- A repetition over all members writes what it writes for each of them. -/
theorem renderPart_forEach_eq_ok {name : Text} {body : List Part} {members : List Value}
    {f : Value → Text} (hmembers : e.eval s = .ok (some (.list members)))
    (hbody : ∀ v ∈ members, ∀ isLast here,
      renderParts (s.bind name v isLast) body = .ok here → here = f v)
    (h : renderPart s (forEach name e body) = .ok text) : text = members.flatMap f := by
  obtain ⟨chosen, texts, hchosen, htexts, rfl⟩ := exists_texts_of_each hmembers h
  obtain rfl := Except.ok.inj hchosen
  have hturns : texts.map id = (turns members).map (f ∘ Prod.fst) := by
    refine Result.map_eq_map_of_mapM htexts fun turn hturn here hhere => ?_
    exact hbody turn.1 (map_fst_turns members ▸ List.mem_map_of_mem hturn) turn.2 here hhere
  rw [List.map_id, ← List.map_map, map_fst_turns] at hturns
  rw [hturns, List.flatMap_def]

/-- What a repetition writes for a member is in its text. -/
theorem exists_infix_of_each {name : Text} {condition : Option Expr} {body : List Part} {v : Value}
    {members : List Value} (hmembers : e.eval s = .ok (some (.list members))) (hv : v ∈ members)
    (hcondition : ∀ c ∈ condition, c.holds (s.bind name v false) = .ok true)
    (h : renderPart s (.each name e condition body) = .ok text) :
    ∃ isLast here, renderParts (s.bind name v isLast) body = .ok here ∧ here <:+: text := by
  obtain ⟨chosen, texts, hchosen, htexts, rfl⟩ := exists_texts_of_each hmembers h
  have hmem : v ∈ chosen := by
    cases condition with
    | none => exact Except.ok.inj hchosen ▸ hv
    | some c => exact Result.mem_of_filterM hchosen hv (hcondition c rfl)
  rw [← map_fst_turns chosen] at hmem
  obtain ⟨⟨_, isLast⟩, hturn, rfl⟩ := List.mem_map.mp hmem
  obtain ⟨here, hhere, hwritten⟩ := Result.exists_of_mem_of_mapM htexts hturn
  exact ⟨isLast, here, hwritten, List.infix_of_mem_flatten hhere⟩

/-! ### Views -/

/-- A record is in scope with its fields. -/
theorem scopeOf_record (fields : List (Text × Value)) :
    scopeOf (record fields) = .ok ⟨fields, none⟩ := by
  simp only [scopeOf, record, Value.entries, Value.view, Result.ok_bind, Result.pure_def,
    List.filterMap_map, Function.comp_def]
  exact congrArg (fun bindings => Except.ok (Scope.mk bindings none)) List.filterMap_some

/-! ### Indentation -/

/-- The unit that the templates are written in stays as it is. -/
theorem reindent_step (text : Text) : reindent text step = text := by
  simp [reindent]

/-- A text without two spaces side by side and without one at its end. -/
def isSolid : Text → Bool
  | [] => true
  | [c] => c != .char ' '
  | c :: d :: rest => !(c == .char ' ' && d == .char ' ') && isSolid (d :: rest)

/-- A code point that does not begin a step stays in front of the text behind it. -/
theorem indentFrom_cons {c : CodePoint} (h : c ≠ .char ' ' ∨ rest.head? ≠ some (.char ' '))
    (atStart : Bool) :
    indentFrom unit atStart (c :: rest) = c :: indentFrom unit (c == .char '\n') rest := by
  rw [indentFrom]
  rintro more rfl rfl
  simp at h

/-- What stands behind a line feed is indented on its own. -/
theorem indentFrom_append_newline (unit text rest : Text) (atStart : Bool) :
    indentFrom unit atStart (text ++ .char '\n' :: rest) =
      indentFrom unit atStart (text ++ [.char '\n']) ++ indentFrom unit true rest := by
  have hnewline (atStart : Bool) (rest : Text) : indentFrom unit atStart (.char '\n' :: rest) =
      .char '\n' :: indentFrom unit true rest :=
    indentFrom_cons (.inl (by decide)) atStart
  induction atStart, text using indentFrom.induct with
  | case1 atStart => simp only [List.nil_append, hnewline, indentFrom, List.cons_append]
  | case2 text ih => simp only [List.cons_append, indentFrom, if_true, ih, List.append_assoc]
  | case3 atStart text hstart ih =>
      simp only [List.cons_append, indentFrom, if_neg hstart, ih, List.append_assoc]
  | case4 atStart c text hc ih =>
      have hhead (rest : Text) :
          c ≠ .char ' ' ∨ (text ++ .char '\n' :: rest).head? ≠ some (.char ' ') := by
        refine or_iff_not_imp_left.mpr fun hspace hhead => ?_
        cases text with
        | nil => cases hhead
        | cons d text =>
            obtain rfl : d = .char ' ' := by simpa using hhead
            exact hc text (not_not.mp hspace) rfl
      rw [List.cons_append, List.cons_append, indentFrom_cons (hhead rest),
        indentFrom_cons (hhead []), ih, List.cons_append]

/-- Behind the end of a line a text is indented on its own. -/
theorem reindent_append_of_newline (h : text.getLast? = some (.char '\n')) (rest unit : Text) :
    reindent (text ++ rest) unit = reindent text unit ++ reindent rest unit := by
  obtain ⟨line, rfl⟩ := List.getLast?_eq_some_iff.mp h
  unfold reindent
  split
  · rfl
  · rw [List.append_assoc]
    exact indentFrom_append_newline unit line rest true

/-- A text without a step stays as it is, and the text behind it is indented on its own. -/
theorem exists_indentFrom_append (h : isSolid text = true) (unit rest : Text) (atStart : Bool) :
    ∃ behind, indentFrom unit atStart (text ++ rest) = text ++ indentFrom unit behind rest := by
  induction text generalizing atStart with
  | nil => exact ⟨atStart, rfl⟩
  | cons c text ih =>
      cases text with
      | nil =>
          have hc : c ≠ .char ' ' := by simpa [isSolid] using h
          exact ⟨_, indentFrom_cons (.inl hc) atStart⟩
      | cons d text =>
          obtain ⟨hpair, hrest⟩ :
              (c ≠ .char ' ' ∨ d ≠ .char ' ') ∧ isSolid (d :: text) = true := by
            simpa [isSolid] using h
          obtain ⟨behind, hbehind⟩ := ih hrest (c == .char '\n')
          have hc : c ≠ .char ' ' ∨ (d :: text ++ rest).head? ≠ some (.char ' ') := by
            simpa using hpair
          exact ⟨behind, by rw [List.cons_append, indentFrom_cons hc, hbehind]; rfl⟩

/-- The same goes for a text that is indented as a whole. -/
theorem exists_reindent_append (h : isSolid text = true) (unit rest : Text) :
    ∃ behind, reindent (text ++ rest) unit = text ++ behind := by
  unfold reindent
  split
  · exact ⟨rest, rfl⟩
  · obtain ⟨behind, h⟩ := exists_indentFrom_append h unit rest true
    exact ⟨_, h⟩

end ClientScribe.Template
