/-!
# Texts

The texts of a document come from escapes as well as from characters, and an escape can write one
half of a UTF-16 pair. Such a half is kept as it is: it is compared, quoted and printed like any
character, and only the step that writes a text as bytes refuses it. A text is therefore a row of
code points, each of which is a character or a half.

## Main definitions

* `CodePoint`: a character, or a half of a pair.
* `Text`: a row of code points; a string is one.
* `Text.chars?`, `Text.utf8?`: the characters and the bytes of a text without a half.
-/

namespace ClientScribe

/-- A character, or a half of a UTF-16 pair by its distance from the first half. -/
inductive CodePoint where
  | char (c : Char)
  | half (n : Fin 2048)
  deriving DecidableEq

/-- A row of code points. -/
abbrev Text := List CodePoint

namespace CodePoint

instance : Coe Char CodePoint := ⟨.char⟩

/-- The number of the first half. -/
def firstHalf : Nat := 0xD800

/-- The number of a code point. -/
def toNat : CodePoint → Nat
  | char c => c.toNat
  | half n => firstHalf + n.val

/-- The code point with a number; numbers beyond the last one give the character zero. -/
def ofNat (n : Nat) : CodePoint :=
  if h : firstHalf ≤ n ∧ n < firstHalf + 2048 then
    half ⟨n - firstHalf, by omega⟩
  else char (Char.ofNat n)

/-- Whether a code point is a character of a class. -/
def satisfies (p : Char → Bool) : CodePoint → Bool
  | char c => p c
  | half _ => false

/-- Only a character is of a class. -/
theorem satisfies_eq_true_iff {p : CodePoint} {P : Char → Bool} :
    p.satisfies P = true ↔ ∃ c, p = .char c ∧ P c = true := by
  cases p with
  | char c => simp [satisfies]
  | half n => simp [satisfies]

/-- The character, if it is one. -/
def char? : CodePoint → Option Char
  | char c => some c
  | half _ => none

/-- The code point with every character changed. -/
def mapChar (f : Char → Char) : CodePoint → CodePoint
  | char c => char (f c)
  | half n => half n

end CodePoint

namespace Text

/-- The text of characters. -/
def ofChars (s : List Char) : Text := s.map .char

/-- The text of a string. -/
def ofString (s : String) : Text := ofChars s.toList

instance : Coe String Text := ⟨ofString⟩

/-- The characters of a text without a half. -/
def chars? (s : Text) : Option (List Char) := s.mapM CodePoint.char?

/-- The string of a text without a half. -/
def string? (s : Text) : Option String := s.chars?.map String.ofList

/-- The bytes of a text without a half. -/
def utf8? (s : Text) : Option ByteArray := s.string?.map String.toUTF8

/-- The texts one behind the other, with a text between them. -/
def intercalate (between : Text) (parts : List Text) : Text :=
  List.intercalate between parts

/-- A number in base ten. -/
def ofNat (n : Nat) : Text := ofString (toString n)

/-- Whether the first text comes before the second, by the numbers of the code points. -/
def before : Text → Text → Bool
  | _, [] => false
  | [], _ :: _ => true
  | a :: s, b :: t => a.toNat < b.toNat || (a == b && before s t)

/-- A row that starts with something gives a text that is not empty. -/
theorem intercalate_cons_ne_nil {first : Text} (h : first ≠ []) (between : Text)
    (more : List Text) : intercalate between (first :: more) ≠ [] := by
  cases more with
  | nil => simpa [intercalate] using h
  | cons next more => simp [intercalate, List.intercalate_cons_cons, h]

/-- One more text behind others stands behind them and the text between. -/
theorem intercalate_concat {parts : List Text} (h : parts ≠ []) (between last : Text) :
    intercalate between (parts ++ [last]) = intercalate between parts ++ between ++ last := by
  induction parts with
  | nil => exact absurd rfl h
  | cons first more ih =>
    cases more with
    | nil => simp [intercalate]
    | cons next more =>
      have hmore := ih (List.cons_ne_nil next more)
      simp only [intercalate, List.cons_append, List.intercalate_cons_cons] at hmore ⊢
      rw [hmore]
      simp only [List.append_assoc]

/-- The characters of a text of characters are these. -/
@[simp] theorem chars?_ofChars (s : List Char) : chars? (ofChars s) = some s := by
  simp only [chars?, ofChars]
  induction s with
  | nil => rfl
  | cons c s ih => simp [List.mapM_cons, ih, CodePoint.char?]

/-- The characters of a text are the text. -/
theorem ofChars_of_chars? {s : Text} {cs : List Char} (h : s.chars? = some cs) :
    ofChars cs = s := by
  induction s generalizing cs with
  | nil =>
    obtain rfl : [] = cs := by simpa [chars?] using h
    rfl
  | cons c s ih =>
    cases c with
    | half n => simp [chars?, List.mapM_cons, CodePoint.char?] at h
    | char c =>
      obtain ⟨more, hmore, rfl⟩ : ∃ more, chars? s = some more ∧ c :: more = cs := by
        simpa [chars?, List.mapM_cons, CodePoint.char?, Option.bind_eq_some_iff] using h
      exact congrArg (CodePoint.char c :: ·) (ih hmore)

/-- A text has characters exactly when it has no half. -/
theorem isSome_chars?_iff {s : Text} :
    s.chars?.isSome = true ↔ s.all (fun c => c.char?.isSome) = true := by
  rw [chars?]
  induction s with
  | nil => simp
  | cons c s ih =>
    rw [List.all_cons, Bool.and_eq_true, ← ih]
    cases hc : c.char? <;> cases hmore : s.mapM CodePoint.char? <;>
      simp [List.mapM_cons, hc, hmore]

/-- A text has bytes exactly when it has no half. -/
theorem isSome_utf8?_iff {s : Text} :
    s.utf8?.isSome = true ↔ s.all (fun c => c.char?.isSome) = true := by
  rw [utf8?, string?, Option.isSome_map, Option.isSome_map, isSome_chars?_iff]

/-- Texts with the same bytes are the same text. -/
theorem utf8?_inj {s t : Text} {bytes : ByteArray} (hs : s.utf8? = some bytes)
    (ht : t.utf8? = some bytes) : s = t := by
  simp only [utf8?, string?, Option.map_map, Option.map_eq_some_iff, Function.comp_apply,
    String.toUTF8_eq_toByteArray] at hs ht
  obtain ⟨cs, hcs, rfl⟩ := hs
  obtain ⟨ds, hds, hbytes⟩ := ht
  obtain rfl : ds = cs := String.ofList_injective (String.toByteArray_inj.mp hbytes)
  rw [← ofChars_of_chars? hcs, ← ofChars_of_chars? hds]

/-- Different strings are different texts. -/
@[simp] theorem ofString_inj {s t : String} : ofString s = ofString t ↔ s = t := by
  constructor
  · intro h
    have hchars : some s.toList = some t.toList := by
      rw [← chars?_ofChars, ← chars?_ofChars]
      exact congrArg chars? h
    exact String.toList_inj.mp (Option.some.inj hchars)
  · exact congrArg ofString

end Text

end ClientScribe
