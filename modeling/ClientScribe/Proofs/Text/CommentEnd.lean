import ClientScribe.Text.Blank

/-!
# Ends of Comments in a Text

An asterisk and a slash side by side end a block comment. A text that is put together has such a
pair if one of its parts has, provided that none ends in the asterisk while the next one starts with
the slash. Between parts there is usually a fixed text that makes sure of this (`isSeam`), and then
only the parts count (`endsComment_seam`). Blanks at the ends of a text do not count either
(`endsComment_strip`).
-/

namespace ClientScribe.Text

variable {c : CodePoint} {s t u seam : Text}

/-- Whether a text has the end of a block comment. -/
def endsComment : Text → Bool
  | [] => false
  | c :: rest => (c == .char '*' && rest.head? == some (.char '/')) || endsComment rest

/-- A text that does not start with a slash can stand behind any other. -/
theorem endsComment_append_of_head? (h : t.head? ≠ some (.char '/')) (s : Text) :
    endsComment (s ++ t) = (endsComment s || endsComment t) := by
  induction s with
  | nil => rfl
  | cons c s ih =>
      rw [List.cons_append, endsComment, endsComment, ih, Bool.or_assoc]
      cases s with
      | nil => simp [h]
      | cons d s => rfl

/-- A text that does not end in an asterisk can stand in front of any other. -/
theorem endsComment_append_of_getLast? (h : s.getLast? ≠ some (.char '*')) (t : Text) :
    endsComment (s ++ t) = (endsComment s || endsComment t) := by
  induction s with
  | nil => rfl
  | cons c s ih =>
      cases s with
      | nil =>
          have hc : c ≠ .char '*' := by simpa using h
          simp [endsComment, hc]
      | cons d s =>
          rw [List.getLast?_cons_cons] at h
          rw [List.cons_append, endsComment, endsComment, ih h, Bool.or_assoc]
          rfl

/-- A text without an asterisk has no end of a comment. -/
theorem endsComment_eq_false (h : .char '*' ∉ s) : endsComment s = false := by
  induction s with
  | nil => rfl
  | cons c s ih =>
      obtain ⟨hc, hs⟩ := List.ne_and_not_mem_of_not_mem_cons h
      rw [endsComment, ih hs, Bool.or_false, beq_eq_false_iff_ne.mpr hc.symm, Bool.false_and]

/-! ### Seams -/

/-- Whether a text keeps the texts around it apart and adds no end of a comment of its own. -/
def isSeam (s : Text) : Bool :=
  s.head?.any (· != .char '/') && s.getLast?.any (· != .char '*') && !endsComment s

/-- Around a seam only the texts around it count. -/
theorem endsComment_seam (h : isSeam seam = true) (s t : Text) :
    endsComment (s ++ seam ++ t) = (endsComment s || endsComment t) := by
  simp only [isSeam, Bool.and_eq_true, Bool.not_eq_true', Option.any_eq_true, bne_iff_ne] at h
  obtain ⟨⟨⟨first, hfirst, hslash⟩, last, hlast, hstar⟩, hends⟩ := h
  have hhead : seam.head? ≠ some (.char '/') := by simpa [hfirst] using hslash
  have hgetLast : (s ++ seam).getLast? ≠ some (.char '*') := by
    simpa [List.getLast?_append, hlast] using hstar
  rw [endsComment_append_of_getLast? hgetLast, endsComment_append_of_head? hhead, hends,
    Bool.or_false]

/-- A seam in front of a text does not make it end the comment it stands in. -/
theorem endsComment_seam_append (h : isSeam seam = true) (t : Text) :
    endsComment (seam ++ t) = endsComment t :=
  endsComment_seam h [] t

/-- A seam behind a text does not make it end the comment it stands in. -/
theorem endsComment_append_seam (h : isSeam seam = true) (s : Text) :
    endsComment (s ++ seam) = endsComment s := by
  simpa [endsComment] using endsComment_seam h s []

/-- A row of texts with a seam between them. -/
theorem endsComment_intercalate (h : isSeam seam = true) (ts : List Text) :
    endsComment (intercalate seam ts) = ts.any endsComment := by
  induction ts with
  | nil => rfl
  | cons s ts ih =>
      cases ts with
      | nil => simp [intercalate]
      | cons t ts =>
          rw [intercalate, List.intercalate_cons_cons, endsComment_seam h]
          exact congrArg (endsComment s || ·) ih

/-! ### Blanks -/

/-- Blanks do not matter at either end of a text. -/
theorem endsComment_blanks (h : ∀ c ∈ s, c.satisfies isBlank = true) (t : Text) :
    endsComment (s ++ t) = endsComment t ∧ endsComment (t ++ s) = endsComment t := by
  have hstar : .char '*' ∉ s := fun hmem => absurd (h _ hmem) (by decide)
  have hslash : .char '/' ∉ s := fun hmem => absurd (h _ hmem) (by decide)
  have hhead : s.head? ≠ some (.char '/') := fun heq => hslash (List.mem_of_mem_head? heq)
  have hlast : s.getLast? ≠ some (.char '*') := fun heq => hstar (List.mem_of_mem_getLast? heq)
  rw [endsComment_append_of_getLast? hlast, endsComment_append_of_head? hhead,
    endsComment_eq_false hstar]
  exact ⟨Bool.false_or _, Bool.or_false _⟩

/-- Cutting off the blanks at the end does not matter. -/
theorem endsComment_stripEnd (s : Text) : endsComment (stripEnd s) = endsComment s := by
  have hblank : ∀ c ∈ (s.reverse.takeWhile (·.satisfies isBlank)).reverse,
      c.satisfies isBlank = true := fun c hc =>
    List.all_eq_true.mp List.all_takeWhile c (List.mem_reverse.mp hc)
  have hsplit : stripEnd s ++ (s.reverse.takeWhile (·.satisfies isBlank)).reverse = s := by
    rw [stripEnd, ← List.reverse_append, List.takeWhile_append_dropWhile, List.reverse_reverse]
  calc endsComment (stripEnd s)
      = endsComment (stripEnd s ++ (s.reverse.takeWhile (·.satisfies isBlank)).reverse) :=
        (endsComment_blanks hblank _).2.symm
    _ = endsComment s := by rw [hsplit]

/-- Cutting off the blanks at both ends does not matter. -/
theorem endsComment_strip (s : Text) : endsComment (strip s) = endsComment s := by
  have hblank : ∀ c ∈ s.takeWhile (·.satisfies isBlank), c.satisfies isBlank = true :=
    List.all_eq_true.mp List.all_takeWhile
  calc endsComment (strip s)
      = endsComment (s.dropWhile (·.satisfies isBlank)) := endsComment_stripEnd _
    _ = endsComment (s.takeWhile (·.satisfies isBlank) ++ s.dropWhile (·.satisfies isBlank)) :=
        (endsComment_blanks hblank _).1.symm
    _ = endsComment s := by rw [List.takeWhile_append_dropWhile]

end ClientScribe.Text
