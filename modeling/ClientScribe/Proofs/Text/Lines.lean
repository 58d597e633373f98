import ClientScribe.Text.Basic
import Mathlib.Data.List.Forall2

/-!
# Lines of a Text

A line ends at a line feed and nowhere else, so a text has one line more than it has line feeds.
`Text.lines` cuts a text into its lines.

`Text.Ended` relates a text to the same text with semicolons in front of some line feeds. It is
closed under putting texts one behind the other, and read by lines it says that every line is the
same or has one semicolon more at its end (`Ended.lines`).
-/

namespace ClientScribe.Text

/-- The lines of a text, without the line feeds between them. -/
def lines (s : Text) : List Text := s.splitOn (.char '\n')

/-- The text with given lines. -/
def ofLines (lines : List Text) : Text := intercalate [.char '\n'] lines

variable {s t : Text} {c : CodePoint}

/-- The empty text has one line, the empty one. -/
@[simp] theorem lines_nil : lines [] = [[]] := rfl

/-- A line end in front of a text opens an empty line before its lines. -/
@[simp] theorem lines_newline (s : Text) : lines (.char '\n' :: s) = [] :: lines s := by
  simp [lines, List.splitOn_cons_eq_if_modifyHead]

/-- A character that ends no line stands in the first line. -/
theorem lines_cons (h : c ≠ .char '\n') (s : Text) :
    lines (c :: s) = (lines s).modifyHead (c :: ·) := by
  simp [lines, List.splitOn_cons_eq_if_modifyHead, h]

/-- A text has a first line. -/
theorem exists_lines_eq_cons (s : Text) : ∃ line more, lines s = line :: more :=
  List.exists_cons_of_ne_nil (List.splitOn_ne_nil _ _)

/-- A text without a line feed stands in front of the first line of the text behind it. -/
theorem lines_append (h : .char '\n' ∉ s) (t : Text) :
    lines (s ++ t) = (lines t).modifyHead (s ++ ·) := by
  induction s with
  | nil =>
      obtain ⟨line, more, hlines⟩ := exists_lines_eq_cons t
      simp [hlines]
  | cons c s ih =>
      obtain ⟨hc, hs⟩ := List.ne_and_not_mem_of_not_mem_cons h
      rw [List.cons_append, lines_cons (Ne.symm hc), ih hs, List.modifyHead_modifyHead]
      rfl

/-- The first line of a text starts as the text does. -/
theorem head?_of_lines {line : Text} {more : List Text} (h : lines s = line :: more) :
    line = [] ∨ line.head? = s.head? := by
  cases s with
  | nil => exact .inl (List.cons.inj h).1.symm
  | cons c s =>
      by_cases hc : c = .char '\n'
      · subst hc
        rw [lines_newline] at h
        exact .inl (List.cons.inj h).1.symm
      · obtain ⟨first, rest, hs⟩ := exists_lines_eq_cons s
        rw [lines_cons hc, hs, List.modifyHead_cons] at h
        rw [← (List.cons.inj h).1]
        exact .inr rfl

/-- A text is made of its lines. -/
@[simp] theorem ofLines_lines (s : Text) : ofLines (lines s) = s :=
  List.intercalate_splitOn _

/-! ### Ends of lines -/

/-- The second text is the first one with a semicolon in front of some of its line feeds. -/
inductive Ended : Text → Text → Prop
  | nil : Ended [] []
  | cons (c : CodePoint) {s t : Text} (h : Ended s t) : Ended (c :: s) (c :: t)
  | line {s t : Text} (h : Ended s t) : Ended (.char '\n' :: s) (.char ';' :: .char '\n' :: t)

/-- A line that is the same or has one semicolon more at its end. -/
def EndedLine (plain ended : Text) : Prop :=
  ended = plain ∨ ended = plain ++ [.char ';']

namespace Ended

/-- A text is itself with no semicolon added. -/
theorem refl (s : Text) : Ended s s := by
  induction s with
  | nil => exact .nil
  | cons c s ih => exact .cons c ih

/-- Semicolons may be added in either part of a text. -/
theorem append {s' t' : Text} (h : Ended s t) (h' : Ended s' t') : Ended (s ++ s') (t ++ t') := by
  induction h with
  | nil => exact h'
  | cons c _ ih => exact .cons c ih
  | line _ ih => exact .line ih

/-- Semicolons may be added in each piece of a text on its own. -/
theorem flatten {ss ts : List Text} (h : List.Forall₂ Ended ss ts) :
    Ended ss.flatten ts.flatten := by
  induction h with
  | nil => exact .nil
  | cons h _ ih => exact h.append ih

/-- **Semicolons in front of line feeds end lines.** -/
theorem lines (h : Ended s t) : List.Forall₂ EndedLine (lines s) (lines t) := by
  induction h with
  | nil => exact .cons (.inl rfl) .nil
  | @cons c s t _ ih =>
      by_cases hc : c = .char '\n'
      · subst hc
        rw [lines_newline, lines_newline]
        exact .cons (.inl rfl) ih
      · obtain ⟨line, more, hs⟩ := exists_lines_eq_cons s
        obtain ⟨line', more', ht⟩ := exists_lines_eq_cons t
        rw [hs, ht] at ih
        rw [lines_cons hc, lines_cons hc, hs, ht]
        obtain _ | ⟨hline, hmore⟩ := ih
        refine .cons ?_ hmore
        obtain rfl | rfl := hline
        · exact .inl rfl
        · exact .inr rfl
  | @line s t _ ih =>
      rw [lines_newline, lines_cons (by decide), lines_newline]
      exact .cons (.inr rfl) ih

end Ended

end ClientScribe.Text
