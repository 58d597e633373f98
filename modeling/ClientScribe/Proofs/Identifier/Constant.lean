import ClientScribe.Identifier.Basic
import ClientScribe.Proofs.Text.UpperCase

/-!
# Names In Upper Case

The constant of an operation is its name in upper case, with an underscore where a part of the name
ends: where a capital follows a small letter or a digit.

The search for such pairs goes from left to right, and behind a pair it does not look at the pair's
capital again. No end of a part is missed by that: the capital is neither a small letter nor a
digit, so none comes right behind another one (`IsBoundary.not_succ`). What the search gives is thus
the name with an underscore at all of these places at once (`separateCapitals_eq_markBoundaries`).

The upper case of a character may be any character of any script, and it may be several, but it is
never a small letter from a to z (`isLower_eq_false_of_mem_upper`). So a name with such a letter is
not the constant of any operation (`ne_constantName`), and not the constant of a start either.
-/

namespace ClientScribe

namespace Text.Case

/-- The number of a character is none of those from behind the capitals to the end of ASCII. -/
def IsOutside (n : Nat) : Prop := n < 91 ∨ 127 < n

/-- The character with a number has this number, or 0 if there is none with it. -/
theorem isOutside_ofNat {n : Nat} (h : IsOutside n) : IsOutside (Char.ofNat n).toNat := by
  by_cases hn : n.isValidChar
  · rw [Char.ofNat, dif_pos hn]
    exact h
  · rw [Char.ofNat, dif_neg hn]
    exact .inl (by decide)

/-- The runs of the upper case move no character to one of these numbers. -/
theorem isOutside_move {r : CaseRun} (hr : r ∈ upperRuns.toList) {n : Nat} (h : r.covers n = true) :
    IsOutside (r.move n).toNat := by
  have hall : ∀ r ∈ upperRuns.toList, (r.last : Int) + r.offset < 91 ∨
      127 < (r.first : Int) + r.offset := by decide +kernel
  have hrun := hall r hr
  obtain ⟨hfirst, hlast⟩ := bounds_of_covers h
  refine isOutside_ofNat ?_
  simp only [IsOutside, Int.ofNat_eq_natCast]
  omega

/-- The characters with several ones for their upper case have none of these among them. -/
theorem isOutside_of_mem_upperExpansions {e : Nat × List Nat} (he : e ∈ upperExpansions.toList)
    {n : Nat} (hn : n ∈ e.2) : IsOutside n := by
  have hall : (upperExpansions.toList.all fun e => e.2.all fun n => n < 91 || 127 < n) = true := by
    decide +kernel
  simpa [IsOutside] using List.all_eq_true.mp (List.all_eq_true.mp hall e he) n hn

/-- **The upper case of a character.** In ASCII there is one; beyond it, the only ASCII characters
among those of the upper case are capitals and what comes in front of them. -/
theorem eq_toUpper_or_isOutside {c d : Char} (h : d ∈ upperChar c) :
    c.toNat < 128 ∧ d = c.toUpper ∨ IsOutside d.toNat := by
  cases upperOf_of_mem_upperChar h with
  | ascii hascii => exact .inl ⟨hascii, rfl⟩
  | expansion he hn => exact .inr (isOutside_ofNat (isOutside_of_mem_upperExpansions he hn))
  | run hr hcovers => exact .inr (isOutside_move hr hcovers)
  | itself hbeyond => exact .inr (.inr hbeyond)

/-- The upper case of a character has no small letter. -/
theorem isLower_eq_false_of_mem_upperChar {c d : Char} (h : d ∈ upperChar c) :
    d.isLower = false := by
  obtain ⟨hascii, rfl⟩ | houtside := eq_toUpper_or_isOutside h
  · have hall : ∀ n : Fin 128, (Char.ofNat n.val).toUpper.isLower = false := by decide +kernel
    exact forall_ascii hascii hall
  · rw [Bool.eq_false_iff, Ne, isLower_iff]
    unfold IsOutside at houtside
    omega

/-- **The upper case of a text has no small letter.** -/
theorem isLower_eq_false_of_mem_upper {s : Text} {c : Char} (h : CodePoint.char c ∈ upper s) :
    c.isLower = false := by
  obtain ⟨p, -, hp⟩ := List.mem_flatMap.mp h
  cases p with
  | half n => simp [upperPoint] at hp
  | char b =>
      obtain ⟨d, hd, heq⟩ := List.mem_map.mp hp
      obtain rfl := CodePoint.char.inj heq
      exact isLower_eq_false_of_mem_upperChar hd

end Text.Case

namespace Identifier

variable {s rest : Text} {p q : CodePoint} {i : Nat}

/-! ### Boundaries -/

/-- A part of the text ends at the position: a small letter from a to z or a decimal digit of any
script stands there, and a capital from A to Z comes next. -/
def IsBoundary (s : Text) (i : Nat) : Prop :=
  ∃ c d : Char, s[i]? = some (.char c) ∧ s[i + 1]? = some (.char d) ∧
    ('a' ≤ c ∧ c ≤ 'z' ∨ Text.isDecimalDigit c = true) ∧ 'A' ≤ d ∧ d ≤ 'Z'

/-- A part ends behind a small letter from a to z or a decimal digit. -/
theorem endsPart_iff {c : Char} :
    endsPart c = true ↔ 'a' ≤ c ∧ c ≤ 'z' ∨ Text.isDecimalDigit c = true := by
  rw [endsPart, Bool.or_eq_true, Text.Case.isLower_iff]
  rfl

/-- No capital is a small letter or a digit. -/
theorem endsPart_eq_false_of_isUpper {c : Char} (h : c.isUpper = true) : endsPart c = false := by
  obtain ⟨hfirst, hlast⟩ := Text.Case.isUpper_iff.mp h
  have hall : ∀ n : Fin 26, endsPart (Char.ofNat (65 + n)) = false := by decide +kernel
  have hc := hall ⟨c.toNat - 65, by omega⟩
  rwa [show 65 + (c.toNat - 65) = c.toNat by omega, Char.ofNat_toNat] at hc

/-- A part ends exactly where the search can find a pair. -/
theorem isBoundary_iff : IsBoundary s i ↔
    s[i]?.any (·.satisfies endsPart) = true ∧ s[i + 1]?.any (·.satisfies Char.isUpper) = true := by
  simp only [Option.any_eq_true, CodePoint.satisfies_eq_true_iff, endsPart_iff,
    Text.Case.isUpper_iff]
  constructor
  · rintro ⟨c, d, hc, hd, hends, hupper⟩
    exact ⟨⟨_, hc, c, rfl, hends⟩, _, hd, d, rfl, hupper⟩
  · rintro ⟨⟨_, hc, c, rfl, hends⟩, _, hd, d, rfl, hupper⟩
    exact ⟨c, d, hc, hd, hends, hupper⟩

instance (s : Text) (i : Nat) : Decidable (IsBoundary s i) :=
  decidable_of_iff _ isBoundary_iff.symm

/-- The text with an underscore at every position where a part ends. -/
def markBoundaries (s : Text) : Text :=
  (s.mapIdx fun i p => p :: if IsBoundary s i then ("_" : Text) else []).flatten

/-- **No part ends right behind the end of another one.** -/
theorem IsBoundary.not_succ (h : IsBoundary s i) : ¬ IsBoundary s (i + 1) := by
  intro hnext
  obtain ⟨-, hupper⟩ := isBoundary_iff.mp h
  obtain ⟨hends, -⟩ := isBoundary_iff.mp hnext
  obtain ⟨p, hp, hpupper⟩ := Option.any_eq_true _ _ |>.mp hupper
  rw [hp, Option.any_some] at hends
  obtain ⟨c, rfl, hc⟩ := CodePoint.satisfies_eq_true_iff.mp hpupper
  simp [CodePoint.satisfies, endsPart_eq_false_of_isUpper hc] at hends

/-- Where the parts of a text end does not depend on what stands in front of it. -/
theorem isBoundary_cons_succ : IsBoundary (p :: s) (i + 1) ↔ IsBoundary s i := Iff.rfl

/-- A part ends at the first position if the first two characters are such a pair. -/
theorem isBoundary_zero_iff : IsBoundary (p :: q :: rest) 0 ↔
    (p.satisfies endsPart && q.satisfies Char.isUpper) = true := by
  rw [isBoundary_iff, Bool.and_eq_true]
  rfl

/-- The last position of a text is not the end of a part. -/
theorem not_isBoundary_singleton : ¬ IsBoundary [p] 0 := by
  simp [IsBoundary]

/-- Marks are set behind the first character, if a part ends there, and in the rest. -/
theorem markBoundaries_cons (p : CodePoint) (s : Text) : markBoundaries (p :: s) =
    p :: ((if IsBoundary (p :: s) 0 then ("_" : Text) else []) ++ markBoundaries s) := by
  simp [markBoundaries, List.mapIdx_cons, isBoundary_cons_succ]

/-- **The search finds every end of a part**, however closely they follow each other. -/
theorem separateCapitals_eq_markBoundaries (s : Text) :
    separateCapitals s = markBoundaries s := by
  induction s using separateCapitals.induct with
  | case1 p q rest hpair ih =>
      have hends : IsBoundary (p :: q :: rest) 0 := isBoundary_zero_iff.mpr hpair
      -- the search goes on behind the capital, where no part ends
      have hnext : ¬ IsBoundary (q :: rest) 0 := hends.not_succ
      rw [separateCapitals, if_pos hpair, ih, markBoundaries_cons, markBoundaries_cons,
        if_pos hends, if_neg hnext]
      rfl
  | case2 p q rest hpair ih =>
      have hends : ¬ IsBoundary (p :: q :: rest) 0 := fun h => hpair (isBoundary_zero_iff.mp h)
      rw [separateCapitals, if_neg hpair, ih, markBoundaries_cons p, if_neg hends]
      rfl
  | case3 rest hshort =>
      cases rest with
      | nil => rfl
      | cons p more =>
          cases more with
          | nil => rw [markBoundaries_cons, if_neg not_isBoundary_singleton]; rfl
          | cons q rest => exact absurd rfl (hshort p q rest)

/-- **The constant of an operation** is its name in upper case, with one underscore between a small
letter or a digit and a capital behind it, and none elsewhere. -/
theorem constantName_eq_upper_markBoundaries (name : Text) :
    constantName name = Text.Case.upper (markBoundaries name) := by
  rw [constantName, separateCapitals_eq_markBoundaries]

/-- Both ends of parts are marked, with a single capital between them. -/
example : constantName "get9Z9Zone" = Text.ofString "GET9_Z9_ZONE" := by decide +kernel

/-! ### Small letters -/

/-- A name with a small letter is no constant, with capitals behind it or without. -/
theorem ne_constantName {name : Text} {c : Char} (hc : .char c ∈ name) (hlower : c.isLower = true)
    (other : Text) : name ≠ constantName other ∧ name ≠ constantName other ++ "_START" := by
  have hconstant : CodePoint.char c ∉ constantName other := fun h => by
    have hfalse := Text.Case.isLower_eq_false_of_mem_upper h
    rw [hlower] at hfalse
    cases hfalse
  have hend : CodePoint.char c ∉ Text.ofString "_START" := fun h => by
    have hall : ∀ p ∈ Text.ofString "_START", p.satisfies Char.isLower = false := by decide
    have hfalse := hall _ h
    rw [CodePoint.satisfies, hlower] at hfalse
    cases hfalse
  refine ⟨fun h => hconstant (h ▸ hc), fun h => ?_⟩
  rw [h] at hc
  exact (List.mem_append.mp hc).elim hconstant hend

end Identifier

end ClientScribe
