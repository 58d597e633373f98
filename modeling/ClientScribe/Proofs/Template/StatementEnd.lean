import ClientScribe.Proofs.Agreement
import ClientScribe.Proofs.Template.Rendering
import ClientScribe.Proofs.Text.Lines
import ClientScribe.Template.Actions
import ClientScribe.Template.Descriptor
import ClientScribe.Template.Types

/-!
# Where Statements End

A template writes the end of a statement by asking for the name `st`. Rendered once with nothing
under that name and once with a semicolon, it gives two texts that differ wherever the name was
asked for. `endsLines` looks through a row of parts, repetitions and choices included, for a place
where the name is asked for but no line ends: then the second text is the first one with semicolons
in front of some line feeds (`agree_renderParts`).

All templates of the client pass this check.
-/

namespace ClientScribe.Template

open Document (Value record)
open Result (Agree)
open Text (Ended)

/-- The name under which templates find the end of a statement. -/
def endName : Text := "st"

/-- Whether an expression asks for the end of a statement. -/
def Expr.asksEnd : Expr → Bool
  | name n => n == endName
  | field e _ => e.asksEnd
  | last => false
  | not e => e.asksEnd
  | and a b => a.asksEnd || b.asksEnd
  | or a b => a.asksEnd || b.asksEnd
  | is e _ => e.asksEnd

/-- Whether a part writes the end of a statement. -/
def Part.isEnd : Part → Bool
  | .value (.name n) => n == endName
  | _ => false

/-- Whether a row of parts starts with the end of a line. -/
def startsWithLineEnd : List Part → Bool
  | .text (.char '\n' :: _) :: _ => true
  | _ => false

mutual

/-- Whether a part asks for the end of a statement only where a line ends. -/
def Part.endsLines : Part → Bool
  | .text _ => true
  | .value e => !e.asksEnd
  | .joined e _ => !e.asksEnd
  | .choice condition yes no => !condition.asksEnd && endsLines yes && endsLines no
  | .each name e condition body =>
    name != endName && !e.asksEnd && !condition.any Expr.asksEnd && endsLines body

/-- Whether a row of parts asks for the end of a statement only where a line ends. -/
def endsLines : List Part → Bool
  | [] => true
  | p :: rest => (p.endsLines || (p.isEnd && startsWithLineEnd rest)) && endsLines rest

end

/-- Two scopes that differ in the end of a statement: the first one has none, the second one a
semicolon. -/
structure EndApart (s s' : Scope) : Prop where
  others : ∀ n, n ≠ endName → s.bindings.lookup n = s'.bindings.lookup n
  isLast : s.isLast = s'.isLast
  plain : s.bindings.lookup endName = some (.str [])
  ended : s'.bindings.lookup endName = some (.str ";")

variable {s s' : Scope}

namespace EndApart

/-- One more name, for the same value, is no other difference. -/
theorem bind {name : Text} (h : EndApart s s') (hname : name ≠ endName) (v : Value)
    (isLast : Bool) : EndApart (s.bind name v isLast) (s'.bind name v isLast) where
  others n hn := by
    by_cases hnew : n = name
    · simp [Scope.bind, hnew]
    · simp [Scope.bind, List.lookup_cons, beq_false_of_ne hnew, h.others n hn]
  isLast := rfl
  plain := by
    simp [Scope.bind, List.lookup_cons, beq_false_of_ne hname.symm, h.plain]
  ended := by
    simp [Scope.bind, List.lookup_cons, beq_false_of_ne hname.symm, h.ended]

/-- An expression that does not ask for the end of a statement has one value in both scopes. -/
theorem eval_eq (h : EndApart s s') {e : Expr} (he : e.asksEnd = false) : e.eval s = e.eval s' := by
  induction e with
  | name n => simp [Expr.eval, h.others n (by simpa [Expr.asksEnd] using he)]
  | last => simp [Expr.eval, h.isLast]
  | field e n ih => simp [Expr.eval, ih he]
  | not e ih => simp [Expr.eval, ih he]
  | is e text ih => simp [Expr.eval, ih he]
  | and a b iha ihb =>
      obtain ⟨ha, hb⟩ : a.asksEnd = false ∧ b.asksEnd = false := by simpa [Expr.asksEnd] using he
      simp [Expr.eval, iha ha, ihb hb]
  | or a b iha ihb =>
      obtain ⟨ha, hb⟩ : a.asksEnd = false ∧ b.asksEnd = false := by simpa [Expr.asksEnd] using he
      simp [Expr.eval, iha ha, ihb hb]

/-- An expression that does not ask for the end of a statement is demanded alike in both scopes. -/
theorem demand_eq (h : EndApart s s') {e : Expr} (he : e.asksEnd = false) :
    e.demand s = e.demand s' := by
  rw [Expr.demand, Expr.demand, h.eval_eq he]

/-- An expression that does not ask for the end of a statement holds in both scopes or in none. -/
theorem holds_eq (h : EndApart s s') {e : Expr} (he : e.asksEnd = false) :
    e.holds s = e.holds s' := by
  rw [Expr.holds, Expr.holds, h.demand_eq he]

end EndApart

/-- What the end of a statement is in two such scopes. -/
theorem renderPart_of_isEnd (h : EndApart s s') {p : Part} (hp : p.isEnd = true) :
    renderPart s p = .ok [] ∧ renderPart s' p = .ok [.char ';'] := by
  unfold Part.isEnd at hp
  split at hp
  · next n =>
    obtain rfl : n = endName := by simpa using hp
    rw [renderPart, renderPart]
    simp only [Expr.demand, Expr.eval, h.plain, h.ended]
    exact ⟨rfl, rfl⟩
  · cases hp

/-- A row that starts with the end of a line starts with a text that does. -/
theorem exists_of_startsWithLineEnd {p : Part} {rest : List Part}
    (h : startsWithLineEnd (p :: rest) = true) : ∃ text, p = .text (.char '\n' :: text) := by
  unfold startsWithLineEnd at h
  split at h
  · next text _ heq => exact ⟨text, (List.cons.inj heq).1⟩
  · cases h

mutual

/-- What a part writes in two such scopes. -/
theorem agree_renderPart : ∀ (p : Part) {s s' : Scope}, EndApart s s' → p.endsLines = true →
    Agree Ended (renderPart s p) (renderPart s' p)
  | .text t, _, _, _, _ => by
      rw [renderPart, renderPart]
      exact .ok (.refl t)
  | .value e, _, _, h, hp => by
      rw [renderPart, renderPart, h.demand_eq (by simpa [Part.endsLines] using hp)]
      exact .refl Ended.refl _
  | .joined e separator, _, _, h, hp => by
      rw [renderPart, renderPart, h.demand_eq (by simpa [Part.endsLines] using hp)]
      exact .refl Ended.refl _
  | .choice condition yes no, _, _, h, hp => by
      simp only [Part.endsLines, Bool.and_eq_true, Bool.not_eq_true'] at hp
      obtain ⟨⟨hcondition, hyes⟩, hno⟩ := hp
      rw [renderPart, renderPart, h.holds_eq hcondition]
      refine .bind_same _ fun holds => ?_
      split
      · exact (agree_renderParts yes h hyes).1
      · exact (agree_renderParts no h hno).1
  | .each name e condition body, s, s', h, hp => by
      simp only [Part.endsLines, Bool.and_eq_true, Bool.not_eq_true', bne_iff_ne] at hp
      obtain ⟨⟨⟨hname, he⟩, hcondition⟩, hbody⟩ := hp
      have hturns (chosen : List Value) :
          Agree Ended
            ((turns chosen).mapM (fun (v, isLast) => renderParts (s.bind name v isLast) body) >>=
              fun texts => pure texts.flatten)
            ((turns chosen).mapM (fun (v, isLast) => renderParts (s'.bind name v isLast) body) >>=
              fun texts => pure texts.flatten) := by
        refine (Agree.mapM _ fun turn _ => ?_).bind fun texts texts' htexts => .ok (.flatten htexts)
        exact (agree_renderParts body (h.bind hname turn.1 turn.2) hbody).1
      rw [renderPart, renderPart, h.demand_eq he]
      refine .bind_same _ fun v => .bind_same _ fun members => ?_
      cases condition with
      | none => exact .bind_same _ hturns
      | some c =>
          have hchosen : (fun v => c.holds (s.bind name v false)) =
              fun v => c.holds (s'.bind name v false) :=
            funext fun v => (h.bind hname v false).holds_eq hcondition
          simp only [hchosen]
          exact .bind_same _ hturns

/-- **Semicolons end lines.** A row of parts that asks for the end of a statement only where a line
ends writes two texts that differ in semicolons at the ends of lines. A row that starts with the end
of a line can have one more semicolon in front of it. -/
theorem agree_renderParts : ∀ (parts : List Part) {s s' : Scope}, EndApart s s' →
    endsLines parts = true →
    Agree Ended (renderParts s parts) (renderParts s' parts) ∧
      (startsWithLineEnd parts = true →
        Agree (fun t t' => Ended t (.char ';' :: t')) (renderParts s parts) (renderParts s' parts))
  | [], _, _, _, _ => by
      rw [renderParts, renderParts]
      exact ⟨.ok .nil, fun hstart => by cases hstart⟩
  | p :: rest, _, _, h, hparts => by
      simp only [endsLines, Bool.and_eq_true, Bool.or_eq_true] at hparts
      obtain ⟨hp, hrest⟩ := hparts
      obtain ⟨hagree, hstart⟩ := agree_renderParts rest h hrest
      rw [renderParts, renderParts]
      refine ⟨?_, fun hline => ?_⟩
      · obtain hp | ⟨hend, hline⟩ := hp
        · refine (agree_renderPart p h hp).bind fun here here' hhere => ?_
          exact hagree.bind fun behind behind' hbehind => .ok (hhere.append hbehind)
        · -- the semicolon comes to stand in front of the line feed behind it
          obtain ⟨hplain, hended⟩ := renderPart_of_isEnd h hend
          rw [hplain, hended]
          exact (hstart hline).bind fun behind behind' hbehind => .ok hbehind
      · obtain ⟨text, rfl⟩ := exists_of_startsWithLineEnd hline
        rw [renderPart, renderPart]
        exact hagree.bind fun behind behind' hbehind =>
          .ok (.line ((Ended.refl text).append hbehind))

end

/-! ### The templates of the client -/

/-- The file of a group ends its statements only where its lines end. -/
theorem endsLines_operations : endsLines operations = true := by decide +kernel

/-- The file of types ends its statements only where its lines end. -/
theorem endsLines_types : endsLines types = true := by decide +kernel

/-- The file of the service ends its statements only where its lines end. -/
theorem endsLines_descriptor : endsLines descriptor = true := by decide +kernel

/-- The file of actions ends its statements only where its lines end. -/
theorem endsLines_actions : endsLines actions = true := by decide +kernel

end ClientScribe.Template
