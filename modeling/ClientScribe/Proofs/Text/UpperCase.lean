import ClientScribe.Text.Case

/-!
# Classes That Upper Case Keeps

The upper case of a character may be any character of any script, and it may be several. Each of
them comes from one of four places (`UpperOf`): the capitals of ASCII, the table of expansions, a
run that moves the character, or the character itself.

A class of characters that is given by ranges is kept if nothing in these places leads across its
border (`IsKept`). That is a matter of the tables alone, and for a run it is mostly enough to look
at both of its ends: one range holds all that it moves, and another one all that it moves this to.
Then each character of an upper case is in the class exactly if the character is whose upper case it
is (`IsKept.holds_eq`).
-/

namespace ClientScribe.Text.Case

variable {c d : Char} {ranges more : List (Nat × Nat)} {r : CaseRun} {a b n : Nat}

/-! ### Where the characters come from -/

/-- A character is moved by a run that covers it. -/
theorem exists_of_moved? {runs : Array CaseRun} (h : moved? runs c = some d) :
    ∃ r ∈ runs, r.covers c.toNat = true ∧ r.move c.toNat = d := by
  obtain ⟨r, hfound, hd⟩ := Option.map_eq_some_iff.mp h
  exact ⟨r, Array.mem_of_find?_eq_some hfound, by simpa using Array.find?_some hfound, hd⟩

/-- A number that a range covers lies between its bounds. -/
theorem bounds_of_covers (h : r.covers n = true) : r.first ≤ n ∧ n ≤ r.last := by
  simp only [CaseRun.covers, Bool.and_eq_true, decide_eq_true_eq] at h
  exact h.1

/-- The ways for a character to be in the upper case of another one. -/
inductive UpperOf (c : Char) : Char → Prop
  | ascii (h : c.toNat < 128) : UpperOf c c.toUpper
  | expansion {expansion : List Nat} {n : Nat}
      (h : (c.toNat, expansion) ∈ upperExpansions.toList) (hn : n ∈ expansion) :
      UpperOf c (Char.ofNat n)
  | run {r : CaseRun} (hr : r ∈ upperRuns.toList) (h : r.covers c.toNat = true) :
      UpperOf c (r.move c.toNat)
  | itself (h : 128 ≤ c.toNat) : UpperOf c c

/-- Each character of the upper case of another one gets there in one of these ways. -/
theorem upperOf_of_mem_upperChar (h : d ∈ upperChar c) : UpperOf c d := by
  unfold upperChar at h
  split at h
  · next hascii =>
    rw [List.mem_singleton.mp h]
    exact .ascii hascii
  · next hascii =>
    split at h
    · next m expansion hfound =>
      obtain ⟨n, hn, rfl⟩ := List.mem_map.mp h
      have hkey : m = c.toNat := by simpa using Array.find?_some hfound
      exact .expansion (hkey ▸ Array.mem_toList_iff.mpr (Array.mem_of_find?_eq_some hfound)) hn
    · rw [List.mem_singleton.mp h]
      cases hmoved : moved? upperRuns c with
      | none => exact .itself (Nat.not_lt.mp hascii)
      | some e =>
          obtain ⟨r, hr, hcovers, rfl⟩ := exists_of_moved? hmoved
          exact .run (Array.mem_toList_iff.mpr hr) hcovers

/-- No character is without upper case. -/
theorem upperChar_ne_nil (c : Char) : upperChar c ≠ [] := by
  have hall : (upperExpansions.toList.all fun e => !e.2.isEmpty) = true := by decide +kernel
  unfold upperChar
  split
  · simp
  · split
    · next m expansion hfound =>
      have hmem := Array.mem_toList_iff.mpr (Array.mem_of_find?_eq_some hfound)
      simpa using List.all_eq_true.mp hall _ hmem
    · simp

/-- The upper case of a code point is never empty. -/
theorem upperPoint_ne_nil (p : CodePoint) : upperPoint p ≠ [] := by
  cases p with
  | half n => simp [upperPoint]
  | char c => simpa [upperPoint, Text.ofChars] using upperChar_ne_nil c

/-! ### Classes as ranges -/

/-- Whether one of the ranges holds a number. -/
def holds (ranges : List (Nat × Nat)) (n : Nat) : Bool :=
  ranges.any fun r => r.1 ≤ n && n ≤ r.2

/-- Whether one of the ranges holds all numbers from the first to the second. -/
def isWithin (ranges : List (Nat × Nat)) (a b : Nat) : Bool :=
  ranges.any fun r => r.1 ≤ a && b ≤ r.2

/-- Whether no range holds any number from the first to the second. -/
def isApart (ranges : List (Nat × Nat)) (a b : Nat) : Bool :=
  ranges.all fun r => r.2 < a || b < r.1

/-- Characters as ranges of one. -/
def single (cs : List Char) : List (Nat × Nat) := cs.map fun c => (c.toNat, c.toNat)

/-- A number is in two rows of ranges exactly when it is in one of them. -/
theorem holds_append : holds (ranges ++ more) n = (holds ranges n || holds more n) :=
  List.any_append

/-- A character is in the ranges of single characters exactly when it is one of these. -/
theorem holds_single (cs : List Char) (c : Char) : holds (single cs) c.toNat = cs.contains c := by
  rw [Bool.eq_iff_iff]
  simp only [holds, single, List.any_map, List.any_eq_true, Function.comp_apply, Bool.and_eq_true,
    decide_eq_true_eq, List.contains_iff_mem]
  constructor
  · rintro ⟨d, hd, hle, hge⟩
    rwa [← Char.toNat_inj.mp (Nat.le_antisymm hle hge)]
  · intro hc
    exact ⟨c, hc, Nat.le_refl _, Nat.le_refl _⟩

/-- A number between two others is in the range that holds both. -/
theorem holds_of_isWithin (h : isWithin ranges a b = true) (ha : a ≤ n) (hb : n ≤ b) :
    holds ranges n = true := by
  simp only [isWithin, holds, List.any_eq_true, Bool.and_eq_true, decide_eq_true_eq] at h ⊢
  obtain ⟨r, hr, hfirst, hlast⟩ := h
  exact ⟨r, hr, Nat.le_trans hfirst ha, Nat.le_trans hb hlast⟩

/-- A number between two others is in no range if nothing between them is. -/
theorem holds_of_isApart (h : isApart ranges a b = true) (ha : a ≤ n) (hb : n ≤ b) :
    holds ranges n = false := by
  simp only [isApart, List.all_eq_true, Bool.or_eq_true, decide_eq_true_eq] at h
  simp only [holds, List.any_eq_false, Bool.and_eq_true, decide_eq_true_eq]
  intro r hr
  have := h r hr
  omega

/-! ### Classes that are kept -/

/-- The number that a run moves a number to. -/
def target (r : CaseRun) (n : Nat) : Nat := (Int.ofNat n + r.offset).toNat

/-- Whether a run keeps a class as a whole: one range holds what it moves and one holds what it
moves this to, or none holds any of it. -/
def keepsAll (ranges : List (Nat × Nat)) (r : CaseRun) : Bool :=
  isWithin ranges r.first r.last && isWithin ranges (target r r.first) (target r r.last) ||
    isApart ranges r.first r.last && isApart ranges (target r r.first) (target r r.last)

/-- Whether a run keeps a class number by number. -/
def keepsEach (ranges : List (Nat × Nat)) (r : CaseRun) : Bool :=
  (List.range' r.first (r.last + 1 - r.first)).all fun n =>
    !r.covers n || holds ranges (target r n) == holds ranges n

/-- A class that upper case keeps, as far as its tables say. -/
structure IsKept (ranges : List (Nat × Nat)) : Prop where
  letters : ∀ i : Fin 26, holds ranges (65 + i) = holds ranges (97 + i)
  expansions :
    (upperExpansions.toList.all fun e => e.2.all fun n => holds ranges n == holds ranges e.1) = true
  runs : (upperRuns.toList.all fun r => keepsAll ranges r || keepsEach ranges r) = true

/-- A range moves its numbers in their order. -/
theorem target_le (h : a ≤ b) : target r a ≤ target r b := by
  simp only [target, Int.ofNat_eq_natCast]
  omega

/-- What a run moves stays on its side of a class that the run keeps. -/
theorem holds_target (h : keepsAll ranges r = true ∨ keepsEach ranges r = true)
    (hcovers : r.covers n = true) : holds ranges (target r n) = holds ranges n := by
  obtain ⟨hfirst, hlast⟩ := bounds_of_covers hcovers
  simp only [keepsAll, Bool.or_eq_true, Bool.and_eq_true] at h
  obtain (⟨hsource, htarget⟩ | ⟨hsource, htarget⟩) | heach := h
  · rw [holds_of_isWithin hsource hfirst hlast,
      holds_of_isWithin htarget (target_le hfirst) (target_le hlast)]
  · rw [holds_of_isApart hsource hfirst hlast,
      holds_of_isApart htarget (target_le hfirst) (target_le hlast)]
  · have hn : n ∈ List.range' r.first (r.last + 1 - r.first) := by
      rw [List.mem_range'_1]
      omega
    simpa [hcovers] using List.all_eq_true.mp heach n hn

/-- What holds of the characters with the first 128 numbers holds of all of ASCII. -/
@[elab_as_elim] theorem forall_ascii {P : Char → Prop} (hc : c.toNat < 128)
    (h : ∀ n : Fin 128, P (Char.ofNat n)) : P c := by
  have hn := h ⟨c.toNat, hc⟩
  rwa [Char.ofNat_toNat] at hn

/-- A capital is one of the characters from A to Z. -/
theorem isUpper_iff : c.isUpper = true ↔ 65 ≤ c.toNat ∧ c.toNat ≤ 90 := by
  have hbounds : c.isUpper = decide (65 ≤ c.toNat ∧ c.toNat ≤ 90) := rfl
  rw [hbounds, decide_eq_true_eq]

/-- A small letter is one of the characters from a to z. -/
theorem isLower_iff : c.isLower = true ↔ 97 ≤ c.toNat ∧ c.toNat ≤ 122 := by
  have hbounds : c.isLower = (decide (97 ≤ c.toNat) && decide (c.toNat ≤ 122)) := rfl
  rw [hbounds, Bool.and_eq_true, decide_eq_true_eq, decide_eq_true_eq]

/-- A letter is a capital or a small letter. -/
theorem isAlpha_iff : c.isAlpha = true ↔ c.isUpper = true ∨ c.isLower = true := by
  have hcases : c.isAlpha = (c.isUpper || c.isLower) := rfl
  rw [hcases, Bool.or_eq_true]

/-- In ASCII only the small letters have another upper case. -/
theorem toNat_toUpper (h : c.toNat < 128) :
    c.toUpper.toNat = if 97 ≤ c.toNat ∧ c.toNat ≤ 122 then c.toNat - 32 else c.toNat := by
  have hall : ∀ n : Fin 128, (Char.ofNat n).toUpper.toNat =
      if 97 ≤ (Char.ofNat n).toNat ∧ (Char.ofNat n).toNat ≤ 122 then (Char.ofNat n).toNat - 32
      else (Char.ofNat n).toNat := by decide +kernel
  exact forall_ascii h hall

/-- A valid number is the number of its character. -/
theorem toNat_ofNat (h : n.isValidChar) : (Char.ofNat n).toNat = n := by
  rw [Char.ofNat, dif_pos h]
  rfl

/-- The runs lead to characters. -/
theorem toNat_move (hr : r ∈ upperRuns.toList) (hcovers : r.covers n = true) :
    (r.move n).toNat = target r n := by
  have hall : (upperRuns.toList.all fun r => target r r.last < 0xD800 ||
      0xE000 ≤ target r r.first && target r r.last < 0x110000) = true := by decide +kernel
  obtain ⟨hfirst, hlast⟩ := bounds_of_covers hcovers
  have hrun := List.all_eq_true.mp hall r hr
  simp only [Bool.or_eq_true, Bool.and_eq_true, decide_eq_true_eq] at hrun
  have hlow := target_le (r := r) hfirst
  have hhigh := target_le (r := r) hlast
  refine toNat_ofNat (?_ : (target r n).isValidChar)
  unfold Nat.isValidChar
  omega

/-- The expansions consist of characters. -/
theorem toNat_ofNat_of_expansion {e : Nat × List Nat} (he : e ∈ upperExpansions.toList)
    (hn : n ∈ e.2) : (Char.ofNat n).toNat = n := by
  have hall : (upperExpansions.toList.all fun e => e.2.all fun n => n < 0xD800) = true := by
    decide +kernel
  have hlt : n < 0xD800 := by
    simpa using List.all_eq_true.mp (List.all_eq_true.mp hall e he) n hn
  exact toNat_ofNat (.inl hlt)

/-- **What upper case keeps.** Each character of an upper case is in a class that is kept exactly if
the character is whose upper case it is. -/
theorem IsKept.holds_eq (h : IsKept ranges) (hd : d ∈ upperChar c) :
    holds ranges d.toNat = holds ranges c.toNat := by
  cases upperOf_of_mem_upperChar hd with
  | ascii hascii =>
      rw [toNat_toUpper hascii]
      split
      · have hletter := h.letters ⟨c.toNat - 97, by omega⟩
        rwa [show 65 + (c.toNat - 97) = c.toNat - 32 by omega,
          show 97 + (c.toNat - 97) = c.toNat by omega] at hletter
      · rfl
  | expansion he hn =>
      rw [toNat_ofNat_of_expansion he hn]
      simpa using List.all_eq_true.mp (List.all_eq_true.mp h.expansions _ he) _ hn
  | run hr hcovers =>
      rw [toNat_move hr hcovers]
      exact holds_target (Bool.or_eq_true_iff.mp (List.all_eq_true.mp h.runs _ hr)) hcovers
  | itself => rfl

/-! ### Texts -/

section Text

variable {P : CodePoint → Bool}

/-- A property that upper case keeps of characters holds of the upper case of a code point exactly
if it holds of the code point. -/
theorem all_upperPoint (hP : ∀ c, ∀ d ∈ upperChar c, P (.char d) = P (.char c)) (p : CodePoint) :
    (upperPoint p).all P = P p := by
  cases p with
  | half n => simp [upperPoint]
  | char c =>
      obtain ⟨d, ds, hupper⟩ := List.exists_cons_of_ne_nil (upperChar_ne_nil c)
      rw [Bool.eq_iff_iff, upperPoint, Text.ofChars, List.all_map, List.all_eq_true]
      refine ⟨fun h => ?_, fun h e he => (hP c e he).trans h⟩
      have hd : d ∈ upperChar c := hupper ▸ List.mem_cons_self
      exact (hP c d hd).symm.trans (h d hd)

/-- A property that upper case does not change holds of a capitalised word as of the word. -/
theorem all_capitalize (hP : ∀ c, ∀ d ∈ upperChar c, P (.char d) = P (.char c)) (word : Text) :
    (capitalize word).all P = word.all P := by
  cases word with
  | nil => rfl
  | cons p rest => rw [capitalize, List.all_append, all_upperPoint hP, List.all_cons]

end Text

end ClientScribe.Text.Case
