import ClientScribe.Options
import ClientScribe.Proofs.Template.Rendering
import ClientScribe.Proofs.Text.Lines

/-!
# Indentation by Lines

`Template.reindent` runs over a text code point by code point. Read by lines it looks at the spaces
in front of each line and at nothing else: `indentLine` writes every two of them with the unit,
keeps a last single one, and leaves what stands behind them.

* `lines_reindent`: that is what happens to every line of a text;
* `not_step_prefix_indentLine_tab`: with tabs no line starts with two spaces;
* `halved_indentLine_four`: a line whose steps are four spaces wide tells how it was before;
* `EndedLine.indentLine`: a semicolon at the end of a line stays there.
-/

namespace ClientScribe.Template

open Text (lines EndedLine)

variable {unit line rest text : Text} {n : Nat}

/-! ### The spaces in front of a line -/

/-- A row of spaces. -/
def spaces (n : Nat) : Text := List.replicate n (.char ' ')

/-- The number of spaces in front of a line. -/
def leadingSpaces (line : Text) : Nat := (line.takeWhile (· == .char ' ')).length

/-- A line behind the spaces in front of it. -/
def unindented (line : Text) : Text := line.dropWhile (· == .char ' ')

/-- A line is the spaces in front of it and what stands behind them. -/
theorem spaces_append_unindented (line : Text) :
    spaces (leadingSpaces line) ++ unindented line = line := by
  have hspaces : spaces (leadingSpaces line) = line.takeWhile (· == .char ' ') := by
    refine (List.eq_replicate_iff.mpr ⟨rfl, fun c hc => ?_⟩).symm
    exact beq_iff_eq.mp (List.all_eq_true.mp List.all_takeWhile c hc)
  rw [hspaces]
  exact List.takeWhile_append_dropWhile

/-- No space is left behind the spaces in front of a line. -/
theorem head?_unindented (line : Text) : (unindented line).head? ≠ some (.char ' ') := by
  intro h
  have hhead := List.head?_dropWhile_not (· == CodePoint.char ' ') line
  rw [show line.dropWhile (· == CodePoint.char ' ') = unindented line from rfl, h] at hhead
  simp at hhead

/-- Spaces in front of something else are the spaces in front. -/
theorem leadingSpaces_append (h : rest.head? ≠ some (.char ' ')) (n : Nat) :
    leadingSpaces (spaces n ++ rest) = n := by
  have hrest : rest.takeWhile (· == CodePoint.char ' ') = [] := by
    cases rest with
    | nil => rfl
    | cons c rest =>
        have hc : c ≠ .char ' ' := by simpa using h
        simp [hc]
  simp [leadingSpaces, spaces, List.takeWhile_append_of_pos, hrest]

/-- The spaces in front of a text are taken off, up to where it starts with something else. -/
theorem unindented_append (h : rest.head? ≠ some (.char ' ')) (n : Nat) :
    unindented (spaces n ++ rest) = rest := by
  have hrest : rest.dropWhile (· == CodePoint.char ' ') = rest := by
    cases rest with
    | nil => rfl
    | cons c rest =>
        have hc : c ≠ .char ' ' := by simpa using h
        simp [hc]
  simp [unindented, spaces, List.dropWhile_append_of_pos, hrest]

/-- A line starts with a step exactly when at least two spaces stand in front of it. -/
theorem step_prefix_iff : step <+: line ↔ 2 ≤ leadingSpaces line := by
  constructor
  · rintro ⟨rest, rfl⟩
    have hrest : (step ++ rest).takeWhile (· == CodePoint.char ' ') =
        step ++ rest.takeWhile (· == CodePoint.char ' ') := by
      rw [List.takeWhile_append_of_pos]
      decide
    rw [leadingSpaces, hrest, List.length_append]
    exact Nat.le_add_right 2 _
  · intro h
    obtain ⟨more, hmore⟩ := Nat.exists_eq_add_of_le h
    refine ⟨spaces more ++ unindented line, ?_⟩
    have hstep : step = spaces 2 := rfl
    have hspaces : step ++ spaces more = spaces (leadingSpaces line) := by
      rw [hmore, hstep, spaces, spaces, List.replicate_append_replicate]
      rfl
    rw [← List.append_assoc, hspaces, spaces_append_unindented]

/-! ### Another unit -/

/-- A line with every two of the spaces in front of it written with a unit. -/
def indentLine (unit line : Text) : Text :=
  (List.replicate (leadingSpaces line / 2) unit).flatten ++ spaces (leadingSpaces line % 2) ++
    unindented line

/-- A line without a step in front stays as it is. -/
theorem indentLine_of_leadingSpaces_lt (h : leadingSpaces line < 2) (unit : Text) :
    indentLine unit line = line := by
  rw [indentLine, Nat.div_eq_of_lt h, Nat.mod_eq_of_lt h]
  exact spaces_append_unindented line

/-- A step in front of a line is written with the unit. -/
theorem indentLine_step_append (unit line : Text) :
    indentLine unit (step ++ line) = unit ++ indentLine unit line := by
  have hspaces : leadingSpaces (step ++ line) = leadingSpaces line + 2 := rfl
  have hrest : unindented (step ++ line) = unindented line := rfl
  rw [indentLine, hspaces, hrest, Nat.add_div_right _ Nat.two_pos, Nat.add_mod_right,
    List.replicate_succ, List.flatten_cons, indentLine]
  simp only [List.append_assoc]

/-- With the unit of the templates a line stays as it is. -/
theorem indentLine_step (line : Text) : indentLine step line = line := by
  have hsteps : (List.replicate (leadingSpaces line / 2) (spaces 2)).flatten =
      spaces (leadingSpaces line / 2 * 2) :=
    List.flatten_replicate_replicate
  have hstep : step = spaces 2 := rfl
  rw [indentLine, hstep, hsteps, spaces, spaces, List.replicate_append_replicate,
    Nat.div_add_mod']
  exact spaces_append_unindented line

/-- With tabs no line starts with two spaces. -/
theorem not_step_prefix_indentLine_tab (line : Text) :
    ¬step <+: indentLine Indent.tab.unit line := by
  by_cases h : step <+: line
  · obtain ⟨rest, rfl⟩ := h
    rw [indentLine_step_append]
    rintro ⟨behind, hbehind⟩
    cases hbehind
  · have hfew : leadingSpaces line < 2 := Nat.not_le.mp fun hle => h (step_prefix_iff.mpr hle)
    rwa [indentLine_of_leadingSpaces_lt hfew]

/-- The spaces in front of a line with every four of them written as two. -/
def halved (line : Text) : Text :=
  spaces (2 * (leadingSpaces line / 4) + leadingSpaces line % 4) ++ unindented line

/-- A line whose steps are four spaces wide tells how it was before. -/
theorem halved_indentLine_four (line : Text) :
    halved (indentLine Indent.four.unit line) = line := by
  have hunit : Indent.four.unit = spaces 4 := rfl
  have hsteps : (List.replicate (leadingSpaces line / 2) (spaces 4)).flatten =
      spaces (leadingSpaces line / 2 * 4) :=
    List.flatten_replicate_replicate
  have hfour : indentLine Indent.four.unit line =
      spaces (leadingSpaces line / 2 * 4 + leadingSpaces line % 2) ++ unindented line := by
    rw [indentLine, hunit, hsteps, spaces, spaces, List.replicate_append_replicate, spaces]
  rw [hfour, halved, leadingSpaces_append (head?_unindented line),
    unindented_append (head?_unindented line)]
  have hcount : 2 * ((leadingSpaces line / 2 * 4 + leadingSpaces line % 2) / 4) +
      (leadingSpaces line / 2 * 4 + leadingSpaces line % 2) % 4 = leadingSpaces line := by
    omega
  rw [hcount, spaces_append_unindented]

/-- A semicolon at the end of a line stays there. -/
theorem EndedLine.indentLine {ended : Text} (h : EndedLine line ended) (unit : Text) :
    EndedLine (indentLine unit line) (Template.indentLine unit ended) := by
  obtain rfl | rfl := h
  · exact .inl rfl
  · have hrest : (unindented line ++ [CodePoint.char ';']).head? ≠ some (.char ' ') := by
      have hhead := head?_unindented line
      cases hbehind : unindented line with
      | nil => decide
      | cons c behind =>
          rw [hbehind] at hhead
          exact hhead
    have hline : line ++ [.char ';'] =
        spaces (leadingSpaces line) ++ (unindented line ++ [.char ';']) := by
      rw [← List.append_assoc, spaces_append_unindented]
    refine .inr ?_
    rw [hline, Template.indentLine, leadingSpaces_append hrest, unindented_append hrest,
      Template.indentLine, List.append_assoc, List.append_assoc, List.append_assoc]

/-! ### A whole text -/

/-- What a run of indentation does to the lines of a text: if it starts in the middle of the first
line, that one stays. -/
theorem lines_indentFrom (hunit : .char '\n' ∉ unit) {atStart : Bool} {more : List Text}
    (h : lines text = line :: more) :
    lines (indentFrom unit atStart text) =
      (if atStart then indentLine unit line else line) :: more.map (indentLine unit) := by
  have hstep : CodePoint.char '\n' ∉ step := by decide
  induction atStart, text using indentFrom.induct generalizing line more with
  | case1 atStart =>
      obtain ⟨rfl, rfl⟩ := List.cons.inj h
      cases atStart <;> rfl
  | case2 rest ih =>
      obtain ⟨first, others, hrest⟩ := Text.exists_lines_eq_cons rest
      have hlines : lines (step ++ rest) = line :: more := h
      rw [Text.lines_append hstep, hrest, List.modifyHead_cons] at hlines
      obtain ⟨rfl, rfl⟩ := List.cons.inj hlines
      rw [indentFrom, if_pos rfl, Text.lines_append hunit, ih hrest, List.modifyHead_cons,
        if_pos rfl, if_pos rfl, indentLine_step_append]
  | case3 atStart rest hstart ih =>
      obtain ⟨first, others, hrest⟩ := Text.exists_lines_eq_cons rest
      have hlines : lines (step ++ rest) = line :: more := h
      rw [Text.lines_append hstep, hrest, List.modifyHead_cons] at hlines
      obtain ⟨rfl, rfl⟩ := List.cons.inj hlines
      rw [indentFrom, if_neg hstart, Text.lines_append hstep, ih hrest, List.modifyHead_cons,
        if_neg hstart, if_neg (by decide)]
  | case4 atStart c rest hc ih =>
      obtain ⟨first, others, hrest⟩ := Text.exists_lines_eq_cons rest
      rw [indentFrom.eq_3 _ _ _ _ hc]
      by_cases hnewline : c = .char '\n'
      · subst hnewline
        rw [Text.lines_newline] at h ⊢
        obtain ⟨rfl, rfl⟩ := List.cons.inj h
        rw [ih hrest, hrest, if_pos (by decide), List.map_cons]
        cases atStart <;> rfl
      · rw [Text.lines_cons hnewline, hrest, List.modifyHead_cons] at h
        obtain ⟨rfl, rfl⟩ := List.cons.inj h
        have hfalse : (c == CodePoint.char '\n') = false := by simpa using hnewline
        -- a step at the start of the line would be one at the start of the text
        have hfew : leadingSpaces (c :: first) < 2 := by
          refine Nat.not_le.mp fun hle => ?_
          obtain ⟨behind, hbehind⟩ := step_prefix_iff.mpr hle
          obtain ⟨rfl, hfirst⟩ := List.cons.inj hbehind
          obtain rfl | hhead := Text.head?_of_lines hrest
          · cases hfirst
          · rw [← hfirst] at hhead
            obtain ⟨behind', rfl⟩ := List.head?_eq_some_iff.mp hhead.symm
            exact hc behind' rfl rfl
        rw [hfalse] at ih ⊢
        rw [Text.lines_cons hnewline, ih hrest, List.modifyHead_cons, if_neg (by decide),
          indentLine_of_leadingSpaces_lt hfew, ite_self]

/-- **Indentation changes the spaces in front of the lines.** -/
theorem lines_reindent (hunit : .char '\n' ∉ unit) (text : Text) :
    lines (reindent text unit) = (lines text).map (indentLine unit) := by
  unfold reindent
  split
  · next hstep =>
    rw [beq_iff_eq.mp hstep, List.map_congr_left fun line _ => indentLine_step line,
      List.map_id']
  · obtain ⟨line, more, hlines⟩ := Text.exists_lines_eq_cons text
    rw [lines_indentFrom hunit hlines, hlines, if_pos rfl, List.map_cons]

/-- No unit of indentation has a line feed in it. -/
theorem newline_notMem_unit (indent : Indent) : .char '\n' ∉ indent.unit := by
  cases indent <;> decide

end ClientScribe.Template
