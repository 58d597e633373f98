import ClientScribe.Options
import ClientScribe.Proofs.Template.Marked
import ClientScribe.Proofs.Text.CommentEnd

/-!
# Comments of a Template

A template opens a comment with a slash and two asterisks of its own and closes it with an asterisk
and a slash of its own. `isSealed` reads a marked text in this way and refuses it where a comment
ends too early.
-/

namespace ClientScribe.Template

/-- Whether every comment that the template opens is closed by the template: outside a comment a
reader looks for the opening in the template's own text, inside for the first end of a comment,
which has to be the template's own too. The text must not end inside a comment. -/
def isSealed : Bool → Marked → Bool
  | false, (.char '/', false) :: (.char '*', false) :: (.char '*', false) :: rest =>
    isSealed true rest
  | false, _ :: rest => isSealed false rest
  | false, [] => true
  | true, (.char '*', b) :: (.char '/', b') :: rest => !b && !b' && isSealed false rest
  | true, _ :: rest => isSealed true rest
  | true, [] => false

section Reading

variable {m : Marked} {c : CodePoint} {b b' : Bool}

/-- Outside a comment a character that is no slash of the template is passed over. -/
theorem isSealed_of_not_slash (h : ¬ (c = .char '/' ∧ b = false)) :
    isSealed false ((c, b) :: m) = isSealed false m := by
  rw [isSealed]
  rintro _ heq -
  exact h (Prod.mk.inj heq)

/-- Outside a comment a slash without a star of the template behind it is passed over. -/
theorem isSealed_slash_of_not_star (h : ¬ (c = .char '*' ∧ b = false)) :
    isSealed false ((.char '/', false) :: (c, b) :: m) = isSealed false ((c, b) :: m) := by
  rw [isSealed]
  rintro _ - heq
  exact h (Prod.mk.inj (List.cons.inj heq).1)

/-- Outside a comment a slash and one star open nothing without a second star behind them. -/
theorem isSealed_slashStar_of_not_star (h : ¬ (c = .char '*' ∧ b = false)) :
    isSealed false ((.char '/', false) :: (.char '*', false) :: (c, b) :: m) =
      isSealed false ((c, b) :: m) := by
  rw [isSealed.eq_2, isSealed_of_not_slash (by decide)]
  rintro _ - heq
  exact h (Prod.mk.inj (List.cons.inj (List.cons.inj heq).2).1)

/-- In a comment a character that is no star is passed over. -/
theorem isSealed_of_not_star (h : c ≠ .char '*') :
    isSealed true ((c, b) :: m) = isSealed true m := by
  rw [isSealed]
  rintro _ _ _ heq -
  exact h (Prod.mk.inj heq).1

/-- In a comment a star without a slash behind it is passed over. -/
theorem isSealed_star_of_not_slash (h : c ≠ .char '/') :
    isSealed true ((.char '*', b') :: (c, b) :: m) = isSealed true ((c, b) :: m) := by
  rw [isSealed]
  rintro _ _ _ - heq
  exact h (Prod.mk.inj (List.cons.inj heq).1).1

end Reading

/-! ### A reader, step by step -/

/-- Where a reader stands. -/
inductive Standing where
  /-- Outside a comment. -/
  | code
  /-- Behind a slash of the template. -/
  | slash
  /-- Behind a slash and an asterisk of the template. -/
  | opening
  | comment
  /-- In a comment, behind an asterisk that was taken from the view or not. -/
  | star (isTaken : Bool)
  /-- Behind an end of a comment that is not the template's own. -/
  | escaped
  deriving DecidableEq

namespace Standing

/-- Where a reader stands behind one more code point. -/
def step : Standing → CodePoint × Bool → Standing
  | code, (c, b) => if c == .char '/' && !b then slash else code
  | slash, (c, b) =>
    if c == .char '*' && !b then opening else if c == .char '/' && !b then slash else code
  | opening, (c, b) =>
    if c == .char '*' && !b then comment else if c == .char '/' && !b then slash else code
  | comment, (c, b) => if c == .char '*' then star b else comment
  | star b', (c, b) =>
    if c == .char '/' then if b' || b then escaped else code
    else if c == .char '*' then star b else comment
  | escaped, _ => escaped

/-- Where a reader stands behind a text. -/
def run (st : Standing) (m : Marked) : Standing := m.foldl step st

/-- Whether no comment is open. -/
def isOutside : Standing → Bool
  | code | slash | opening => true
  | comment | star _ | escaped => false

/-- What follows is sealed, for a reader who stands there. -/
def seals (m : Marked) : Standing → Bool
  | code => isSealed false m
  | slash => isSealed false ((.char '/', false) :: m)
  | opening => isSealed false ((.char '/', false) :: (.char '*', false) :: m)
  | comment => isSealed true m
  | star b => isSealed true ((.char '*', b) :: m)
  | escaped => false

/-- A step of the reader. -/
theorem seals_cons (st : Standing) (x : CodePoint × Bool) (m : Marked) :
    seals (x :: m) st = seals m (st.step x) := by
  obtain ⟨c, b⟩ := x
  cases st with
  | code =>
      rw [step]
      grind [isSealed_of_not_slash, seals]
  | slash =>
      rw [step]
      grind [isSealed_of_not_slash, isSealed_slash_of_not_star, seals]
  | opening =>
      rw [step]
      grind [isSealed.eq_1, isSealed_of_not_slash, isSealed_slashStar_of_not_star, seals]
  | comment =>
      rw [step]
      grind [isSealed_of_not_star, seals]
  | star b =>
      rw [step]
      grind [isSealed.eq_4, isSealed_of_not_star, isSealed_star_of_not_slash, seals]
  | escaped => rfl

/-- A text is sealed if the reader comes to stand outside. -/
theorem seals_eq_isOutside (m : Marked) (st : Standing) : seals m st = (st.run m).isOutside := by
  induction m generalizing st with
  | nil => cases st <;> simp [seals, isSealed, run, isOutside]
  | cons x m ih =>
      rw [seals_cons, ih]
      rfl

variable {m m' : Marked} {st st' : Standing}

/-- A reader reads a text on from where the text in front of it has brought it. -/
theorem run_append (st : Standing) (m m' : Marked) : st.run (m ++ m') = (st.run m).run m' :=
  List.foldl_append

/-- Behind an end that is not the template's own nothing is told any more. -/
theorem run_escaped (m : Marked) : escaped.run m = escaped := by
  induction m with
  | nil => rfl
  | cons x m ih => exact ih

/-- Text from a view opens no comment. -/
theorem run_code_taken (t : Text) : code.run (taken t) = code := by
  induction t with
  | nil => rfl
  | cons c t ih =>
      have hstep : code.step (c, true) = code := by simp [step]
      calc code.run (taken (c :: t)) = (code.step (c, true)).run (taken t) := rfl
        _ = code := by rw [hstep, ih]

end Standing

/-! ### Text of a template and text from a view -/

/-- In a comment, and perhaps behind an asterisk from the view. -/
inductive InComment : Standing → Prop where
  | comment : InComment .comment
  | star : InComment (.star true)

/-- A text from the view that was in a comment has ended it, or the comment is still open. -/
def LeftBehind (t : Text) (st : Standing) : Prop :=
  if Text.endsComment t then st = .escaped else InComment st

/-- Text from the view in a comment, and the same behind an asterisk of it. -/
theorem leftBehind_run_taken (t : Text) : LeftBehind t (Standing.comment.run (taken t)) ∧
    LeftBehind (.char '*' :: t) ((Standing.star true).run (taken t)) := by
  induction t with
  | nil => exact ⟨.comment, .star⟩
  | cons c t ih =>
      obtain ⟨hplain, hstar⟩ := ih
      have hrun (st : Standing) : st.run (taken (c :: t)) = (st.step (c, true)).run (taken t) := rfl
      rw [hrun, hrun]
      by_cases hc : c = .char '*'
      · subst hc
        exact ⟨hstar, hstar⟩
      · have hends : Text.endsComment (c :: t) = Text.endsComment t := by
          simp [Text.endsComment, hc]
        have hstep : Standing.comment.step (c, true) = .comment := by simp [Standing.step, hc]
        rw [hstep]
        refine ⟨by rwa [LeftBehind, hends], ?_⟩
        by_cases hslash : c = .char '/'
        · subst hslash
          exact Standing.run_escaped _
        · have hstep : (Standing.star true).step (c, true) = .comment := by
            simp [Standing.step, hc, hslash]
          have hends' : Text.endsComment (.char '*' :: c :: t) = Text.endsComment t := by
            rw [Text.endsComment, hends]
            simp [hslash]
          rwa [hstep, LeftBehind, hends']

/-- Where a reader comes to stand behind text of the template. -/
def Reads (st : Standing) (t : Text) (st' : Standing) : Prop := st.run (own t) = st'

section Reading

variable {t t' : Text} {st st' st'' : Standing}

/-- A literal is read character by character. -/
theorem Reads.ofList (cs : List Char)
    (h : cs.foldl (fun st c => st.step (.char c, false)) st = st') :
    Reads st (Text.ofString (String.ofList cs)) st' := by
  rw [Reads, ← h, Standing.run, own, Text.ofString, String.toList_ofList, Text.ofChars,
    List.map_map, List.foldl_map]
  rfl

/-- Two texts of the template one behind the other are read one after the other. -/
theorem Reads.append (st' : Standing) (h : Reads st t st') (h' : Reads st' t' st'') :
    Reads st (t ++ t') st'' := by
  rw [Reads] at h h' ⊢
  rw [own, List.map_append, Standing.run_append]
  exact h.symm ▸ h'

/-- Texts from a view with text of the template between them. -/
theorem Reads.run_intercalate (h : Reads .code t .code) (texts : List Text) :
    Standing.code.run ((own t).intercalate (texts.map taken)) = .code := by
  rw [Reads] at h
  induction texts with
  | nil => rfl
  | cons u texts ih =>
      cases texts with
      | nil => simpa using Standing.run_code_taken u
      | cons w texts =>
          rw [List.map_cons, List.map_cons, List.intercalate_cons_cons, Standing.run_append,
            Standing.run_append, Standing.run_code_taken, h]
          exact ih

/-- Standing there is all that counts. -/
theorem Reads.of_eq (h : Reads st t st') : ∀ at', at' = st → Reads at' t st' := by
  rintro _ rfl
  exact h

/-- Two texts that bring a reader back to where it stood do so together. -/
theorem Reads.append_same (h : Reads st t st) (h' : Reads st t' st) : Reads st (t ++ t') st :=
  h.append st h'

end Reading

/-! ### Indentation -/

/-- Where a reader can stand behind a line feed. -/
inductive AtLineStart : Standing → Prop where
  | code : AtLineStart .code
  | comment : AtLineStart .comment
  | escaped : AtLineStart .escaped

/-- The spaces and tabs in front of a line do not move a reader. -/
theorem run_indentFrom (indent : Indent) (m : Marked) (atStart : Bool) (st : Standing)
    (hstart : atStart = true → AtLineStart st) :
    st.run (m.indentFrom indent.unit atStart) = st.run m := by
  induction atStart, m using Marked.indentFrom.induct generalizing st with
  | case1 atStart => rfl
  | case2 b b' rest ih =>
      have hspaces : st.run ((.char ' ', b) :: (.char ' ', b') :: rest) = st.run rest := by
        cases hstart rfl <;> rfl
      have hunit : st.run (indent.unit.map (·, b)) = st := by
        cases hstart rfl <;> cases indent <;> rfl
      rw [Marked.indentFrom, if_pos rfl, Standing.run_append, hunit, ih st hstart, hspaces]
  | case3 atStart b b' rest hnot ih =>
      rw [Marked.indentFrom, if_neg hnot]
      exact ih _ fun hfalse => absurd hfalse Bool.false_ne_true
  | case4 atStart x rest hstep ih =>
      rw [Marked.indentFrom.eq_3 _ _ _ _ hstep]
      refine ih (st.step x) fun hfeed => ?_
      obtain ⟨c, b⟩ := x
      obtain rfl : c = .char '\n' := by simpa using hfeed
      cases st with
      | comment | star _ => exact .comment
      | escaped => exact .escaped
      | code | slash | opening => exact .code

/-- Indenting a text neither opens nor closes a comment. -/
theorem isSealed_reindent (m : Marked) (indent : Indent) :
    isSealed false (m.reindent indent.unit) = isSealed false m := by
  rw [Marked.reindent]
  split
  · rfl
  · exact (Standing.seals_eq_isOutside _ .code).trans <|
      (congrArg Standing.isOutside (run_indentFrom indent m true .code fun _ => .code)).trans
        (Standing.seals_eq_isOutside m .code).symm

end ClientScribe.Template
