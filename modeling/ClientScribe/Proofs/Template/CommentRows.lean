import ClientScribe.Proofs.Template.Comments
import ClientScribe.Template.Operations

/-!
# Comments in Rows of Parts

What a row of parts does to a reader of comments. Two kinds of rows are told apart:

* `Leads` — a row that takes no text from the view while a comment is open: it brings the reader
  from one place to another, whatever the view is;
* `Brings` — a row that does take text from the view into a comment: it does the same unless a
  condition on the view holds, and under the condition it ends a comment too early.

Each kind has one rule for every kind of part, so that the shape of a template gives its condition.
-/

namespace ClientScribe.Template

open Document (Value)

/-! ### Rows without text from the view in a comment -/

/-- Where a reader comes to stand behind a row of parts, whatever it takes from a view. -/
def Leads (st : Standing) (parts : List Part) (st' : Standing) : Prop :=
  ∀ s m, markParts s parts = .ok m → st.run m = st'

variable {t t' : Text} {st st' st'' : Standing} {parts more : List Part} {e : Expr}

namespace Leads

/-- A row of no parts leaves a reader where it stands. -/
theorem nil : Leads st [] st := by
  intro s m h
  obtain rfl := Except.ok.inj h
  rfl

/-- Two rows one behind the other lead where the second one leads from the end of the first. -/
theorem append (h : Leads st parts st') (h' : Leads st' more st'') :
    Leads st (parts ++ more) st'' := by
  intro s m hm
  obtain ⟨here, rest, hhere, hrest, rfl⟩ := markParts_append_eq_ok_iff.mp hm
  rw [Standing.run_append, h s here hhere]
  exact h' s rest hrest

/-- Rows that bring a reader back to where it stood. -/
theorem append_same (h : Leads st parts st) (h' : Leads st more st) :
    Leads st (parts ++ more) st :=
  h.append h'

/-- The template's own text in front of a row leads to where the row begins. -/
theorem text (st' : Standing) (h : Reads st t st') (hparts : Leads st' parts st'') :
    Leads st (.text t :: parts) st'' := by
  intro s m hm
  obtain ⟨here, rest, hhere, hrest, rfl⟩ := markParts_cons_eq_ok_iff.mp hm
  rw [markPart] at hhere
  obtain rfl := Except.ok.inj hhere
  rw [Standing.run_append, show st.run (own t) = st' from h]
  exact hparts s rest hrest

/-- A line, behind which a reader stands where the line feed brings it. -/
theorem line (st₁ st' : Standing) (h : Reads st t st₁) (hst' : st₁.step (.char '\n', false) = st')
    (hparts : Leads st' parts st'') : Leads st (line t :: parts) st'' :=
  .text st' (h.append st₁ hst') hparts

/-- A value in code leaves a reader in code. -/
theorem value (hparts : Leads .code parts st') : Leads .code (.value e :: parts) st' := by
  intro s m hm
  obtain ⟨here, rest, hhere, hrest, rfl⟩ := markParts_cons_eq_ok_iff.mp hm
  obtain ⟨t, -, rfl⟩ := exists_of_markPart_value hhere
  rw [Standing.run_append, Standing.run_code_taken]
  exact hparts s rest hrest

/-- A statement leads from code to code if the text in front of its end does. -/
theorem statement (h : Reads .code t .code) : Leads .code (statement t) .code :=
  .text .code h (.value (.text .code rfl .nil))

/-- Values in code with text between them leave a reader in code if that text does. -/
theorem joined (h : Reads .code t .code) (hparts : Leads .code parts st') :
    Leads .code (.joined e t :: parts) st' := by
  intro s m hm
  obtain ⟨here, rest, hhere, hrest, rfl⟩ := markParts_cons_eq_ok_iff.mp hm
  rw [markPart] at hhere
  obtain ⟨v, -, hhere⟩ := Result.bind_eq_ok_iff.mp hhere
  obtain ⟨members, -, hhere⟩ := Result.bind_eq_ok_iff.mp hhere
  obtain ⟨texts, -, hhere⟩ := Result.bind_eq_ok_iff.mp hhere
  obtain rfl := Except.ok.inj hhere
  rw [Standing.run_append, h.run_intercalate]
  exact hparts s rest hrest

/-- A choice leaves a reader where it stands if both of its branches do. -/
theorem choice {yes no : List Part} (hyes : Leads st yes st) (hno : Leads st no st)
    (hparts : Leads st parts st') : Leads st (.choice e yes no :: parts) st' := by
  intro s m hm
  obtain ⟨here, rest, hhere, hrest, rfl⟩ := markParts_cons_eq_ok_iff.mp hm
  obtain ⟨v, -, hchosen⟩ := exists_of_markPart_choice hhere
  have hrow : st.run here = st := by
    split at hchosen
    · exact hyes s here hchosen
    · exact hno s here hchosen
  rw [Standing.run_append, hrow]
  exact hparts s rest hrest

/-- A loop leaves a reader where it stands if one turn of it does. -/
theorem each {name : Text} {condition : Option Expr} {body : List Part}
    (hbody : Leads st body st) (hparts : Leads st parts st') :
    Leads st (.each name e condition body :: parts) st' := by
  intro s m hm
  obtain ⟨here, rest, hhere, hrest, rfl⟩ := markParts_cons_eq_ok_iff.mp hm
  obtain ⟨v, members, chosen, marks, -, -, -, hmarks, rfl⟩ := exists_of_markPart_each hhere
  have hrow : st.run marks.flatten = st := by
    have hturns := Result.mapM_eq_ok_iff.mp hmarks
    clear hhere hm hmarks
    generalize turns chosen = row at hturns
    induction hturns with
    | nil => rfl
    | cons hturn _ ih => rw [List.flatten_cons, Standing.run_append, hbody _ _ hturn, ih]
  rw [Standing.run_append, hrow]
  exact hparts s rest hrest

/-- Standing there is all that counts. -/
theorem of_eq (h : Leads st parts st') : ∀ at', at' = st → Leads at' parts st' := by
  rintro _ rfl
  exact h

end Leads

/-! ### Rows with text from the view in a comment -/

/-- A row of parts brings a reader from somewhere to somewhere, unless it ends a comment too early:
that it does exactly under a condition. -/
def Brings (s : Scope) (P : Standing → Prop) (parts : List Part) (early : Prop)
    (Q : Standing → Prop) : Prop :=
  ∀ m, markParts s parts = .ok m → ∀ st, P st →
    (early → st.run m = .escaped) ∧ (¬early → Q (st.run m))

/-- The text of a value has the end of a comment. -/
def EndsComment (v : Value) : Prop := ∃ t, v.text = .ok t ∧ Text.endsComment t = true

section Bringing

variable {s : Scope} {P Q R : Standing → Prop} {early early' : Prop} {v : Value} {p : Part}

namespace Brings

/-- A row of no parts ends no comment and moves no reader. -/
theorem nil : Brings s P [] False P := by
  intro m h st hst
  obtain rfl := Except.ok.inj h
  exact ⟨nofun, fun _ => hst⟩

/-- One row behind another. -/
theorem append (h : Brings s P parts early Q) (h' : Brings s Q more early' R) :
    Brings s P (parts ++ more) (early ∨ early') R := by
  intro m hm st hst
  obtain ⟨here, rest, hhere, hrest, rfl⟩ := markParts_append_eq_ok_iff.mp hm
  obtain ⟨hearly, hbrought⟩ := h here hhere st hst
  rw [Standing.run_append]
  by_cases he : early
  · rw [hearly he, Standing.run_escaped]
    exact ⟨fun _ => rfl, fun hnot => absurd (.inl he) hnot⟩
  · obtain ⟨hearly', hbrought'⟩ := h' rest hrest _ (hbrought he)
    exact ⟨fun h => hearly' (h.resolve_left he), fun h => hbrought' fun he' => h (.inr he')⟩

/-- The condition for an early end can be replaced by an equivalent one. -/
theorem congr (h : Brings s P parts early Q) (hearly : early ↔ early') :
    Brings s P parts early' Q := by
  intro m hm st hst
  rw [← hearly]
  exact h m hm st hst

/-- A row without text from the view in a comment. -/
theorem ofLeads (h : ∀ st, P st → Leads st parts st') : Brings s P parts False (· = st') :=
  fun m hm st hst => ⟨nofun, fun _ => h st hst s m hm⟩

/-- Behind such a row only the other row counts. -/
theorem behind (h : ∀ st, P st → Leads st parts st') (h' : Brings s (· = st') more early Q) :
    Brings s P (parts ++ more) early Q :=
  ((ofLeads h).append h').congr (by rw [false_or])

/-- Neither does such a row count that stands behind the other one. -/
theorem before (h : Brings s P parts early Q) (h' : ∀ st, Q st → Leads st more st') :
    Brings s P (parts ++ more) early (· = st') :=
  (h.append (ofLeads h')).congr (by rw [or_false])

/-- Less can be said about where a reader is brought. -/
theorem inComment (h : Brings s P parts early (· = .comment)) : Brings s P parts early InComment :=
  fun m hm st hst => ⟨(h m hm st hst).1, fun hnot => (h m hm st hst).2 hnot ▸ .comment⟩

/-- A value in a comment. -/
theorem value (he : e.eval s = .ok (some v)) :
    Brings s (· = .comment) [.value e] (EndsComment v) InComment := by
  rintro m hm _ rfl
  obtain ⟨here, rest, hhere, hrest, rfl⟩ := markParts_cons_eq_ok_iff.mp hm
  obtain rfl := Except.ok.inj hrest
  obtain ⟨t, ht, rfl⟩ := exists_of_markPart_value hhere
  obtain ⟨w, hw, ht⟩ := renderPart_value_eq_ok_iff.mp ht
  obtain rfl := Option.some.inj (Except.ok.inj (he.symm.trans hw))
  have hends : EndsComment v ↔ Text.endsComment t = true :=
    ⟨fun ⟨t', ht', hends⟩ => Except.ok.inj (ht.symm.trans ht') ▸ hends, fun hends => ⟨t, ht, hends⟩⟩
  have hleft := (leftBehind_run_taken t).1
  rw [List.append_nil, hends]
  unfold LeftBehind at hleft
  split at hleft
  · next h => exact ⟨fun _ => hleft, fun hnot => absurd h hnot⟩
  · next h => exact ⟨fun hends => absurd hends h, fun _ => hleft⟩

/-- A value in a comment with text of the template around it. -/
theorem between (he : e.eval s = .ok (some v)) (ht : ∀ st, P st → Reads st t .comment)
    (ht' : ∀ st, InComment st → Reads st t' st') :
    Brings s P [.text t, .value e, .text t'] (EndsComment v) (· = st') :=
  .behind (fun st hst => .text .comment (ht st hst) .nil) <|
    (Brings.value he).before fun st hst => .text st' (ht' st hst) .nil

/-- A choice brings a reader where the row does that is chosen. -/
theorem choice {yes no : List Part} (he : e.eval s = .ok (some v))
    (h : Brings s P (if v.isTrue then yes else no) early Q) :
    Brings s P [.choice e yes no] early Q := by
  intro m hm
  obtain ⟨here, rest, hhere, hrest, rfl⟩ := markParts_cons_eq_ok_iff.mp hm
  obtain rfl := Except.ok.inj hrest
  obtain ⟨w, hw, hchosen⟩ := exists_of_markPart_choice hhere
  obtain rfl := Option.some.inj (Except.ok.inj (he.symm.trans hw))
  rw [List.append_nil]
  exact h here hchosen

/-- A row that is written under a condition counts under the condition. -/
theorem optional (he : e.eval s = .ok (some v)) (h : v.isTrue = true → Brings s P parts early P) :
    Brings s P [Template.optional e parts] (v.isTrue = true ∧ early) P := by
  refine .choice he ?_
  cases hv : v.isTrue with
  | true => exact (h hv).congr (by rw [and_iff_right rfl])
  | false => exact Brings.nil.congr (by simp)

/-- The turns of a repetition, each of which brings a reader back to where it stood. -/
theorem turns {α : Type} {name : Text} {body : List Part} {views : List α} {view : α → Value}
    {bad : α → Prop} {marks : List Marked}
    (hbody : ∀ a ∈ views, ∀ isLast, Brings (s.bind name (view a) isLast) P body (bad a) P)
    (hmarks : ((turns (views.map view)).mapM fun turn =>
      markParts (s.bind name turn.1 turn.2) body) = .ok marks) :
    ∀ st, P st → ((∃ a ∈ views, bad a) → st.run marks.flatten = .escaped) ∧
      (¬(∃ a ∈ views, bad a) → P (st.run marks.flatten)) := by
  induction views generalizing marks with
  | nil =>
      obtain rfl := Except.ok.inj hmarks
      exact fun st hst => ⟨by simp, fun _ => hst⟩
  | cons a views ih =>
      simp only [List.map_cons, Template.turns, List.mapM_cons, Result.bind_eq_ok_iff,
        Result.pure_def, Except.ok.injEq] at hmarks
      obtain ⟨here, hhere, others, hothers, rfl⟩ := hmarks
      intro st hst
      obtain ⟨hearly, hbrought⟩ := hbody a List.mem_cons_self _ here hhere st hst
      rw [List.flatten_cons, Standing.run_append, List.exists_mem_cons_iff]
      by_cases ha : bad a
      · rw [hearly ha, Standing.run_escaped]
        exact ⟨fun _ => rfl, fun hnot => absurd (.inl ha) hnot⟩
      · rw [or_iff_right ha]
        exact ih (fun b hb => hbody b (List.mem_cons_of_mem a hb)) hothers _ (hbrought ha)

/-- A repetition with a turn for each of some views. -/
theorem each {α : Type} {name : Text} {condition : Option Expr} {body : List Part}
    {members : List Value} {views : List α} {view : α → Value} {bad : α → Prop}
    (hmembers : e.eval s = .ok (some (.list members)))
    (hchosen : chosenFrom s name condition members = .ok (views.map view))
    (hbody : ∀ a ∈ views, ∀ isLast, Brings (s.bind name (view a) isLast) P body (bad a) P) :
    Brings s P [.each name e condition body] (∃ a ∈ views, bad a) P := by
  intro m hm
  obtain ⟨here, rest, hhere, hrest, rfl⟩ := markParts_cons_eq_ok_iff.mp hm
  obtain rfl := Except.ok.inj hrest
  have hdemand : e.demand s = .ok (.list members) := by
    rw [Expr.demand, hmembers]
    rfl
  obtain ⟨w, members', chosen, marks, hw, hmembers', hchosen', hmarks, rfl⟩ :=
    exists_of_markPart_each hhere
  obtain rfl := Except.ok.inj (hdemand.symm.trans hw)
  obtain rfl := Except.ok.inj hmembers'
  obtain rfl := Except.ok.inj (hchosen.symm.trans hchosen')
  rw [List.append_nil]
  exact turns hbody hmarks

/-- A repetition for all members. -/
theorem forEach {α : Type} {name : Text} {body : List Part} {views : List α} {view : α → Value}
    {bad : α → Prop} (hmembers : e.eval s = .ok (some (.list (views.map view))))
    (hbody : ∀ a isLast, Brings (s.bind name (view a) isLast) P body (bad a) P) :
    Brings s P [Template.forEach name e body] (∃ a ∈ views, bad a) P :=
  each hmembers rfl fun a _ => hbody a

end Brings

/-- What counts for each view, and what counts for each under a condition. -/
theorem exists_mem_or_iff {α : Type} {views : List α} {bad worse : α → Prop} {condition : Prop} :
    ((∃ a ∈ views, bad a) ∨ condition ∧ ∃ a ∈ views, worse a) ↔
      ∃ a ∈ views, bad a ∨ condition ∧ worse a := by
  constructor
  · rintro (⟨a, ha, h⟩ | ⟨hcondition, a, ha, h⟩)
    · exact ⟨a, ha, .inl h⟩
    · exact ⟨a, ha, .inr ⟨hcondition, h⟩⟩
  · rintro ⟨a, ha, h | ⟨hcondition, h⟩⟩
    · exact .inl ⟨a, ha, h⟩
    · exact .inr ⟨hcondition, a, ha, h⟩

/-- A text has the end of a comment as a value if it has one. -/
theorem endsComment_str : EndsComment (.str t) ↔ Text.endsComment t = true := by
  constructor
  · rintro ⟨t', ht', hends⟩
    obtain rfl := Except.ok.inj ht'
    exact hends
  · exact fun hends => ⟨t, rfl, hends⟩

/-- It is then also written where it is written only if there is any. -/
theorem isTrue_and_endsComment_str :
    (Value.str t).isTrue = true ∧ EndsComment (.str t) ↔ Text.endsComment t = true := by
  rw [endsComment_str, and_iff_right_iff_imp]
  cases t with
  | nil => exact nofun
  | cons c t => exact fun _ => rfl

/-- The comment of something described ends too early exactly if the description has the end of
one. -/
theorem brings_describedBy {indent : Text}
    (hindent : indent = Text.ofString "" ∨ indent = Text.ofString "  ")
    (he : e.eval s = .ok (some (.str t))) :
    Brings s (· = .code) [describedBy indent e] (Text.endsComment t = true) (· = .code) := by
  have hcode : Reads .code indent .code := by rcases hindent with rfl | rfl <;> rfl
  have hcomment : Reads .comment indent .comment := by rcases hindent with rfl | rfl <;> rfl
  have hopen : Leads .code [line (indent ++ "/**")] .comment :=
    .line .comment .comment (hcode.append .code (.ofList _ (by decide +kernel))) rfl .nil
  have hclose : Leads .comment [line (indent ++ " */")] .code :=
    .line .code .code (hcomment.append .comment (.ofList _ (by decide +kernel))) rfl .nil
  have hdescription : Brings s (· = .comment) [.text (indent ++ " * "), .value e, lineEnd]
      (EndsComment (.str t)) (· = .comment) :=
    .between he (hcomment.append .comment (.ofList _ (by decide +kernel))).of_eq
      fun st hst => by cases hst <;> rfl
  have hrow : Brings s (· = .code)
      ([line (indent ++ "/**")] ++ ([.text (indent ++ " * "), .value e, lineEnd] ++
        [line (indent ++ " */")])) (EndsComment (.str t)) (· = .code) :=
    .behind hopen.of_eq (hdescription.before hclose.of_eq)
  exact (Brings.optional he fun _ => hrow).congr isTrue_and_endsComment_str

end Bringing

end ClientScribe.Template
