import ClientScribe.Client.Descriptor
import ClientScribe.Proofs.Script.Reader

/-!
# Reading What Has No Parts

A printed text, with single quotes in place of the double ones, is read back exactly if it has no
quote of either kind. A code point that is no quote is printed as itself or as an escape, and both
are read as its units (`quotedUnits_literalPoint`). A single quote ends the text early, and the
escape of a double quote is read as a single quote; either way the units differ from there on
(`isQuote_of_quotedUnits`).

Words are read as what they stand for, and numbers as the decimal that is printed.
-/

namespace ClientScribe.Script

open Client (singleQuoted)
open Decimal (decimalOf Scaled)
open Json (literalChar literalPoint literalText unitEscape isNumberChar skipSpace)

/-! ### Texts -/

/-- A quote of either kind. -/
def isQuote (c : CodePoint) : Bool :=
  c == .char '\'' || c == .char '"'

/-- Quotes are replaced in each of two texts on its own. -/
@[simp] theorem singleQuoted_append (s t : Text) :
    singleQuoted (s ++ t) = singleQuoted s ++ singleQuoted t :=
  List.map_append

/-- Units in front of units in front of a reading stand in front of it together. -/
theorem behind_behind (a b : List Nat) (more : Option (List Nat × Text)) :
    behind a (behind b more) = behind (a ++ b) more := by
  cases more <;> simp [behind]

/-- A hexadecimal digit is no quote. -/
theorem hexDigit_ne_quote {n : Nat} (h : n < 16) : Text.hexDigit n ≠ '"' := by
  have all : ∀ m : Fin 16, Text.hexDigit m ≠ '"' := by decide
  exact all ⟨n, h⟩

/-- An escape by four hexadecimal digits is read as its unit. -/
theorem quotedUnits_unitEscape {n : Nat} (h : n < 0x10000) (k : Text) :
    quotedUnits .plain (singleQuoted (Text.ofChars (unitEscape n)) ++ k) =
      behind [n] (quotedUnits .plain k) := by
  have hdigit (m : Nat) : Text.hexDigit (m % 16) ≠ '"' :=
    hexDigit_ne_quote (Nat.mod_lt m (by decide))
  have hvalue (m : Nat) : Text.hexValue? (Text.hexDigit (m % 16)) = some (m % 16) :=
    Text.hexValue?_hexDigit (Nat.mod_lt m (by decide))
  have hsum : 16 * (16 * (16 * (n / 16 / 16 / 16 % 16) + n / 16 / 16 % 16) + n / 16 % 16) + n % 16 =
      n := by omega
  simp [unitEscape, Text.hexDigits, Text.ofChars, singleQuoted, quotedUnits, hdigit, hvalue,
    CodePoint.char?, hsum]

/-- A code point that is no quote is read as its units. -/
theorem quotedUnits_literalPoint {c : CodePoint} (hc : isQuote c = false) (k : Text) :
    quotedUnits .plain (singleQuoted (Text.ofChars (literalPoint c)) ++ k) =
      behind c.units (quotedUnits .plain k) := by
  cases c with
  | half n =>
      exact quotedUnits_unitEscape (by simp [CodePoint.toNat, CodePoint.firstHalf]; omega) k
  | char c =>
      simp only [isQuote, Bool.or_eq_false_iff, beq_eq_false_iff_ne, ne_eq,
        CodePoint.char.injEq] at hc
      obtain ⟨hsingle, hdouble⟩ := hc
      simp only [literalPoint, literalChar, beq_iff_eq, Bool.and_eq_true, decide_eq_true_eq]
      split_ifs with hback hn hr ht hb hf hprint hsmall
      · obtain rfl := hback
        rfl
      · obtain rfl := hn
        rfl
      · obtain rfl := hr
        rfl
      · obtain rfl := ht
        rfl
      · have hunits : (CodePoint.char c).units = [8] := by simp [CodePoint.units, hb]
        rw [hunits]
        rfl
      · have hunits : (CodePoint.char c).units = [12] := by simp [CodePoint.units, hf]
        rw [hunits]
        rfl
      · simp [Text.ofChars, singleQuoted, quotedUnits, hdouble, hsingle, hback, endsLine, hn, hr]
      · have hunits : (CodePoint.char c).units = [c.toNat] := by simp [CodePoint.units, hsmall]
        rw [hunits]
        exact quotedUnits_unitEscape hsmall k
      · have hvalid : c.toNat < 0xD800 ∨ 0xDFFF < c.toNat ∧ c.toNat < 0x110000 := c.valid
        have hunits : (CodePoint.char c).units =
            [0xD800 + (c.toNat - 0x10000) / 0x400] ++ [0xDC00 + (c.toNat - 0x10000) % 0x400] := by
          simp [CodePoint.units, hsmall]
        have hchars (s t : List Char) : Text.ofChars (s ++ t) = Text.ofChars s ++ Text.ofChars t :=
          List.map_append
        rw [hunits, hchars, singleQuoted_append, List.append_assoc,
          quotedUnits_unitEscape (by omega), quotedUnits_unitEscape (by omega), behind_behind]

/-- The text between the quotes of a literal. -/
def body (s : Text) : Text :=
  singleQuoted (Text.ofChars (s.flatMap literalPoint))

/-- A literal is written code point by code point. -/
theorem body_cons (c : CodePoint) (s : Text) :
    body (c :: s) = singleQuoted (Text.ofChars (literalPoint c)) ++ body s := by
  simp [body, Text.ofChars]

/-- A text without quotes is read as its units. -/
theorem quotedUnits_body {s : Text} (hs : ∀ c ∈ s, isQuote c = false) (k : Text) :
    quotedUnits .plain (body s ++ .char '\'' :: k) = some (s.units, k) := by
  induction s with
  | nil => rfl
  | cons c s ih =>
      obtain ⟨hc, hs⟩ := List.forall_mem_cons.mp hs
      rw [body_cons, List.append_assoc, quotedUnits_literalPoint hc, ih hs]
      rfl

/-- A text that is read as its units has no quotes: a single quote ends it, and a double one is read
as a single one. -/
theorem isQuote_of_quotedUnits {s k r : Text}
    (h : quotedUnits .plain (body s ++ .char '\'' :: k) = some (s.units, r)) :
    (∀ c ∈ s, isQuote c = false) ∧ r = k := by
  induction s generalizing r with
  | nil =>
      have hk : some (([] : List Nat), k) = some ([], r) := h
      exact ⟨by simp, (congrArg Prod.snd (Option.some.inj hk)).symm⟩
  | cons c s ih =>
      cases hc : isQuote c with
      | false =>
          rw [body_cons, List.append_assoc, quotedUnits_literalPoint hc] at h
          obtain ⟨⟨units, rest⟩, hread, heq⟩ := Option.map_eq_some_iff.mp h
          have hunits : c.units ++ units = c.units ++ Text.units s := congrArg Prod.fst heq
          have hrest : rest = r := congrArg Prod.snd heq
          subst hrest
          rw [List.append_cancel_left hunits] at hread
          obtain ⟨hs, hk⟩ := ih hread
          exact ⟨List.forall_mem_cons.mpr ⟨hc, hs⟩, hk⟩
      | true =>
          exfalso
          obtain rfl | rfl : c = .char '\'' ∨ c = .char '"' := by simpa [isQuote] using hc
          · have hend : some (([] : List Nat), body s ++ .char '\'' :: k) =
                some (Text.units (.char '\'' :: s), r) := h
            simp [Text.units, CodePoint.units] at hend
          · have hone : behind [39] (quotedUnits .plain (body s ++ .char '\'' :: k)) =
                some (Text.units (.char '"' :: s), r) := h
            obtain ⟨_, -, heq⟩ := Option.map_eq_some_iff.mp hone
            simp [Text.units, CodePoint.units] at heq

/-! ### Numbers and words -/

/-- What stands behind a value: the end, a comma, or the end of a line. -/
def Delimited (k : Text) : Prop := ∀ c ∈ k.head?, c = .char ',' ∨ c = .char '\n'

/-- A printed text is read as something, whatever stands behind it, if there is fuel enough. -/
def ReadsAs (least : Nat) (t : Text) (d : Datum) : Prop :=
  ∀ k, Delimited k → ∀ fuel, least ≤ fuel → value fuel (singleQuoted t ++ k) = some (d, k)

/-- A character that neither ends a row nor is white space. -/
def isOpening (c : Char) : Bool := !Json.isSpace c && c != ']' && c != '\x7d'

/-- A text that starts with such a character. -/
def Opens (t : Text) : Prop := ∃ c rest, t = .char c :: rest ∧ isOpening c = true

/-- Characters without double quotes stay as they are. -/
theorem singleQuoted_ofChars {s : List Char} (h : '"' ∉ s) :
    singleQuoted (Text.ofChars s) = Text.ofChars s := by
  unfold singleQuoted Text.ofChars
  rw [List.map_map]
  refine List.map_congr_left fun c hc => ?_
  have hne : c ≠ '"' := by
    rintro rfl
    exact h hc
  simp [hne]

/-- What starts with none of the opening characters is a word or a number. -/
theorem value_eq_scalar {c : Char} (hquote : c ≠ '\'') (hbracket : c ≠ '[') (hbrace : c ≠ '\x7b')
    (fuel : Nat) (rest : Text) : value (fuel + 1) (.char c :: rest) = scalar (.char c :: rest) := by
  unfold value
  split
  · next heq => exact absurd (by simpa using (List.cons.inj heq).1) hquote
  · next heq => exact absurd (by simpa using (List.cons.inj heq).1) hbracket
  · next heq => exact absurd (by simpa using (List.cons.inj heq).1) hbrace
  · rfl

/-- The word for nothing is read as nothing. -/
theorem readsAs_null : ReadsAs 1 "null" .null := by
  intro k _ fuel hfuel
  cases fuel with
  | zero => exact absurd hfuel (by decide)
  | succ fuel => exact value_eq_scalar (by decide) (by decide) (by decide) fuel _

/-- The words for truth values are read as these. -/
theorem readsAs_bool (b : Bool) : ReadsAs 1 (if b then "true" else "false") (.bool b) := by
  intro k _ fuel hfuel
  cases b <;> cases fuel with
  | zero => exact absurd hfuel (by decide)
  | succ fuel => exact value_eq_scalar (by decide) (by decide) (by decide) fuel _

section Number

variable {s : List Char} {amount : Scaled}

/-- The characters of a number with its sign. -/
def signedChars (negative : Bool) (s : List Char) : List Char :=
  if negative then '-' :: s else s

/-- A decimal starts with a digit. -/
theorem exists_digit_of_decimalOf (h : decimalOf s = some (amount, [])) :
    ∃ c rest, s = c :: rest ∧ c.isDigit = true := by
  cases s with
  | nil => simp [decimalOf, Json.wholeDigits] at h
  | cons c rest =>
      refine ⟨c, rest, rfl, ?_⟩
      by_contra hc
      have hzero : c ≠ '0' := by
        rintro rfl
        exact hc rfl
      have hwhole : Json.wholeDigits (c :: rest) = ([], c :: rest) := by
        simp [Json.wholeDigits, hzero, hc]
      simp [decimalOf, hwhole] at h

/-- A number with its sign is still written with the characters of a number. -/
theorem isNumberChar_signedChars (negative : Bool) (hs : ∀ c ∈ s, isNumberChar c = true) :
    ∀ c ∈ signedChars negative s, isNumberChar c = true := by
  cases negative with
  | false => exact hs
  | true => exact List.forall_mem_cons.mpr ⟨rfl, hs⟩

/-- A number is read with its sign and its amount, in front of whatever ends it. -/
theorem number_signedChars (negative : Bool) (hs : ∀ c ∈ s, isNumberChar c = true)
    (hread : decimalOf s = some (amount, [])) {k : Text} (hk : Delimited k) :
    number (Text.ofChars (signedChars negative s) ++ k) = some (.number negative amount, k) := by
  have hchars := isNumberChar_signedChars negative hs
  have hstop : k.takeWhile (·.satisfies isNumberChar) = [] := by
    cases k with
    | nil => rfl
    | cons c k => obtain rfl | rfl := hk c rfl <;> rfl
  have hfront : (Text.ofChars (signedChars negative s) ++ k).takeWhile (·.satisfies isNumberChar) =
      Text.ofChars (signedChars negative s) := by
    rw [List.takeWhile_append_of_pos, hstop, List.append_nil]
    intro p hp
    obtain ⟨c, hc, rfl⟩ := List.mem_map.mp hp
    exact hchars c hc
  have hplain : (Text.ofChars (signedChars negative s)).filterMap CodePoint.char? =
      signedChars negative s := by
    simp [Text.ofChars, List.filterMap_map, Function.comp_def, CodePoint.char?]
  have hdrop : (Text.ofChars (signedChars negative s) ++ k).drop (signedChars negative s).length =
      k := by
    rw [← List.length_map (f := CodePoint.char)]
    exact List.drop_left
  obtain ⟨c, rest, rfl, hdigit⟩ := exists_digit_of_decimalOf hread
  have hminus : c ≠ '-' := by
    rintro rfl
    exact absurd hdigit (by decide)
  have hsign : takeMinus (signedChars negative (c :: rest)) = (negative, c :: rest) := by
    cases negative <;> simp [signedChars, takeMinus, hminus]
  unfold number
  rw [hfront, hplain]
  dsimp only
  rw [hsign]
  dsimp only
  rw [hread, hdrop]

/-- What numbers start with starts no word, no text and no collection. -/
theorem scalar_eq_number {c : Char} (hc : isNumberChar c = true) (rest : Text) :
    scalar (.char c :: rest) = number (.char c :: rest) := by
  have hn : c ≠ 'n' := by rintro rfl; exact absurd hc (by decide)
  have ht : c ≠ 't' := by rintro rfl; exact absurd hc (by decide)
  have hf : c ≠ 'f' := by rintro rfl; exact absurd hc (by decide)
  have hnone : words.find? (fun w => w.1.isPrefixOf (.char c :: rest)) = none := by
    rw [List.find?_eq_none]
    intro w hw
    simp only [words, List.mem_cons, List.not_mem_nil, or_false] at hw
    obtain rfl | rfl | rfl := hw
    · simp [Text.ofString, Text.ofChars, List.isPrefixOf, hn.symm]
    · simp [Text.ofString, Text.ofChars, List.isPrefixOf, ht.symm]
    · simp [Text.ofString, Text.ofChars, List.isPrefixOf, hf.symm]
  unfold scalar
  rw [hnone]

/-- A number is read with its sign and its decimal. -/
theorem readsAs_number (negative : Bool) (hs : ∀ c ∈ s, isNumberChar c = true)
    (hread : decimalOf s = some (amount, [])) :
    Opens (Text.ofChars (signedChars negative s)) ∧
      ReadsAs 1 (Text.ofChars (signedChars negative s)) (.number negative amount) := by
  obtain ⟨c, rest, hcons⟩ : ∃ c rest, signedChars negative s = c :: rest := by
    obtain ⟨c, rest, rfl, -⟩ := exists_digit_of_decimalOf hread
    cases negative <;> exact ⟨_, _, rfl⟩
  have hc : isNumberChar c = true :=
    isNumberChar_signedChars negative hs c (hcons ▸ List.mem_cons_self)
  have hne {d : Char} (hd : isNumberChar d = false) : c ≠ d := by
    rintro rfl
    exact absurd hc (by simp [hd])
  have hquoted : singleQuoted (Text.ofChars (signedChars negative s)) =
      Text.ofChars (signedChars negative s) := by
    refine singleQuoted_ofChars fun hmem => absurd (?_ : isNumberChar '"' = true) (by decide)
    exact isNumberChar_signedChars negative hs '"' hmem
  refine ⟨⟨c, Text.ofChars rest, by rw [hcons]; rfl, ?_⟩, ?_⟩
  · simp [isOpening, Json.isSpace, hne (d := ' ') rfl, hne (d := '\t') rfl, hne (d := '\n') rfl,
      hne (d := '\r') rfl, hne (d := ']') rfl, hne (d := '\x7d') rfl]
  · intro k hk fuel hfuel
    rw [hquoted]
    have hnumber := number_signedChars negative hs hread hk
    rw [hcons] at hnumber ⊢
    cases fuel with
    | zero => exact absurd hfuel (by decide)
    | succ fuel =>
        exact (value_eq_scalar (hne rfl) (hne rfl) (hne rfl) fuel _).trans
          ((scalar_eq_number hc _).trans hnumber)

end Number

/-! ### Values without parts -/

/-- An integer is written as its sign and the digits of its amount. -/
theorem ofString_toString (n : Int) :
    Text.ofString (toString n) =
      Text.ofChars (signedChars (decide (n < 0)) (Nat.toDigits 10 n.natAbs)) := by
  rw [Int.toString_eq_repr, Int.repr_eq_if]
  split_ifs with hn
  · rw [Nat.repr_eq_ofList_toDigits, decide_eq_false (not_lt.mpr hn),
      show n.toNat = n.natAbs by omega]
    simp [Text.ofString, signedChars]
  · rw [Nat.repr_eq_ofList_toDigits, decide_eq_true (not_le.mp hn),
      show (-n).toNat = n.natAbs by omega]
    simp [Text.ofString, signedChars]

/-- A whole number is read as this number. -/
theorem readsAs_int (n : Int) : ∃ d, Denotes (.int n) d ∧ Opens (toString n : String) ∧
    ReadsAs 1 (toString n : String) d := by
  have hread : decimalOf (Nat.toDigits 10 n.natAbs) = some (⟨n.natAbs, 0⟩, []) := by
    rw [Decimal.decimalOf_whole (Decimal.isWhole_toDigits _), Decimal.ofDigits_toDigits]
  have hchars : ∀ c ∈ Nat.toDigits 10 n.natAbs, isNumberChar c = true :=
    fun c hc => Decimal.isNumberChar_of_isDigit (Decimal.areDigits_toDigits _ c hc)
  refine ⟨.number (decide (n < 0)) ⟨n.natAbs, 0⟩, .int ?_, ?_⟩
  · have habs : ((n.natAbs : Nat) : ℚ) = |(n : ℚ)| := by
      rw [← Int.cast_natCast, Int.natCast_natAbs, Int.cast_abs]
    rw [signed, Decimal.Scaled.value, zpow_zero, mul_one, habs]
    split_ifs with hn
    · rw [abs_of_neg (Int.cast_lt_zero.mpr (of_decide_eq_true hn)), neg_neg]
    · exact abs_of_nonneg (Int.cast_nonneg (not_lt.mp (by simpa using hn)))
  · rw [ofString_toString]
    exact readsAs_number _ hchars hread

/-- A finite float is read as this float. -/
theorem readsAs_float {x : Float} {negative : Bool} {significand : Nat} {exponent : Int}
    (hx : Decimal.Binary.ofFloat x = .finite negative significand exponent) :
    ∃ d, Denotes (.float x) d ∧ Opens (Decimal.floatText Decimal.literal x) ∧
      ReadsAs 1 (Decimal.floatText Decimal.literal x) d := by
  obtain ⟨s, amount, htext, hchars, hread, hamount⟩ : ∃ s amount,
      Decimal.floatText Decimal.literal x = String.ofList (signedChars negative s) ∧
        (∀ c ∈ s, isNumberChar c = true) ∧ decimalOf s = some (amount, []) ∧
        Decimal.IsReadAs significand exponent amount.value := by
    have htext : Decimal.floatText Decimal.literal x = String.ofList (signedChars negative
        (if significand = 0 then ['0', '.', '0']
          else (Decimal.shortest significand exponent).text Decimal.literal)) := by
      simp only [Decimal.floatText, hx, beq_iff_eq, signedChars]
      by_cases hzero : significand = 0
      · rw [if_pos hzero, if_pos hzero]
      · rw [if_neg hzero, if_neg hzero]
    rw [htext]
    obtain rfl | hpos := Nat.eq_zero_or_pos significand
    · refine ⟨['0', '.', '0'], ⟨0, -1⟩, rfl, List.all_eq_true.mp rfl, rfl, ?_⟩
      simp [Decimal.IsReadAs, Decimal.Interval.Holds, Decimal.Interval.ofFinite,
        Decimal.Scaled.value]
      positivity
    · rw [if_neg (Nat.ne_of_gt hpos)]
      have hshortest := Decimal.isReadAs_shortest hpos (Decimal.leastExponent_le hx)
      obtain ⟨amount, hread, hvalue⟩ := Decimal.decimalOf_text Decimal.literal
        (Decimal.digits_pos_of_isReadAs hpos hshortest)
      exact ⟨_, amount, rfl, Decimal.isNumberChar_text _ _, hread, hvalue ▸ hshortest⟩
  have hnumber := readsAs_number negative hchars hread
  refine ⟨.number negative amount, .float hx hamount, ?_⟩
  rw [htext]
  simpa [Text.ofString] using hnumber

end ClientScribe.Script
