import ClientScribe.Decimal.Text
import ClientScribe.Json.Number
import ClientScribe.Proofs.Decimal.Shortest

/-!
# The Text Of A Decimal Is Read Back

Digits, a fraction and a power of ten write a decimal (`decimalOf`). The text of a decimal may place
its point anywhere or leave it to a power, but it always writes the same number (`decimalOf_text`);
the zeros that it adds in front or behind change the digits and the exponent together.
-/

namespace ClientScribe.Decimal

open Json (wholeDigits fractionDigits exponentPart isNumberChar)

/-- The decimal at the start of a row of characters, and what stands behind it. -/
def decimalOf (s : List Char) : Option (Scaled × List Char) :=
  let (whole, rest) := wholeDigits s
  if whole.isEmpty then none
  else
    let (fraction, rest) := fractionDigits rest
    let (power?, rest) := exponentPart rest
    some (⟨ofDigits (whole ++ fraction), power?.getD 0 - Int.ofNat fraction.length⟩, rest)

/-! ### Rows of digits -/

/-- A row of digits. -/
def AreDigits (s : List Char) : Prop := ∀ c ∈ s, c.isDigit = true

/-- A row that goes on with something else than a digit, or ends. -/
def EndsDigits (s : List Char) : Prop := ∀ c ∈ s.head?, c.isDigit = false

/-- The digits of a whole number: a zero alone, or digits of which the first is none. -/
structure IsWhole (s : List Char) : Prop where
  digits : AreDigits s
  ne_nil : s ≠ []
  head : s = ['0'] ∨ s.head? ≠ some '0'

/-- The end of a text ends a row of digits. -/
theorem endsDigits_nil : EndsDigits [] := by simp [EndsDigits]

/-- What is read as long as it is a digit is the row of digits in front. -/
theorem takeWhile_digits {s rest : List Char} (hs : AreDigits s) (hrest : EndsDigits rest) :
    (s ++ rest).takeWhile Char.isDigit = s := by
  rw [List.takeWhile_append_of_pos hs]
  cases rest with
  | nil => simp
  | cons c rest => simp [hrest c rfl]

/-- What is left behind a row of digits is the rest of the text. -/
theorem dropWhile_digits {s rest : List Char} (hs : AreDigits s) (hrest : EndsDigits rest) :
    (s ++ rest).dropWhile Char.isDigit = rest := by
  rw [List.dropWhile_append_of_pos hs]
  cases rest with
  | nil => simp
  | cons c rest => simp [hrest c rfl]

/-- A row of zeros is a row of digits. -/
theorem areDigits_zeros (n : Nat) : AreDigits (List.replicate n '0') := by
  intro c hc
  rw [(List.mem_replicate.mp hc).2]
  rfl

/-- The decimal form of a natural number is a row of digits. -/
theorem areDigits_toDigits (n : Nat) : AreDigits (Nat.toDigits 10 n) :=
  fun _ hc => Nat.isDigit_of_mem_toDigits (by decide) (by decide) hc

/-- Two rows of digits one after the other are a row of digits. -/
theorem AreDigits.append {s t : List Char} (hs : AreDigits s) (ht : AreDigits t) :
    AreDigits (s ++ t) := by
  intro c hc
  exact (List.mem_append.mp hc).elim (hs c) (ht c)

/-- The digits of a positive number do not start with a zero. -/
theorem head?_toDigits {n : Nat} (hn : 0 < n) : (Nat.toDigits 10 n).head? ≠ some '0' := by
  induction n using Nat.strong_induction_on with
  | _ n ih =>
    rw [Nat.toDigits_eq_if (by decide)]
    split
    · next hlt =>
        have hdigit : ∀ m < 10, 0 < m → m.digitChar ≠ '0' := by decide
        simpa using hdigit n hlt hn
    · next hge =>
        have hhead := ih (n / 10) (by omega) (by omega)
        have hne : Nat.toDigits 10 (n / 10) ≠ [] := Nat.toDigits_ne_nil
        rw [List.head?_append, List.head?_eq_some_head hne] at *
        exact hhead

/-- The decimal form of a natural number can stand before the point. -/
theorem isWhole_toDigits (n : Nat) : IsWhole (Nat.toDigits 10 n) where
  digits := areDigits_toDigits n
  ne_nil := Nat.toDigits_ne_nil
  head := by
    obtain rfl | hn := Nat.eq_zero_or_pos n
    · exact .inl rfl
    · exact .inr (head?_toDigits hn)

/-- The first digits of a positive number, at least one of them. -/
theorem isWhole_take {n k : Nat} (hn : 0 < n) (hk : 0 < k) :
    IsWhole ((Nat.toDigits 10 n).take k) where
  digits c hc := areDigits_toDigits n c (List.mem_of_mem_take hc)
  ne_nil := by
    have hne : Nat.toDigits 10 n ≠ [] := Nat.toDigits_ne_nil
    simp [hne, Nat.ne_of_gt hk]
  head := by
    right
    rw [List.head?_take, if_neg (Nat.ne_of_gt hk)]
    exact head?_toDigits hn

/-! ### The number that digits write -/

/-- The value of a row of digits is read on from the value of its first part. -/
theorem ofDigits_append (s t : List Char) :
    ofDigits (s ++ t) = Nat.ofDigitChars 10 t (ofDigits s) :=
  Nat.ofDigitChars_append 0

/-- The decimal form of a natural number has that number as its value. -/
@[simp] theorem ofDigits_toDigits (n : Nat) : ofDigits (Nat.toDigits 10 n) = n :=
  Nat.ofDigitChars_ten_toDigits

/-- Zeros in front change nothing. -/
theorem ofDigits_zeros_append (n : Nat) (s : List Char) :
    ofDigits (List.replicate n '0' ++ s) = ofDigits s := by
  have hzeros : ofDigits (List.replicate n '0') = 0 := by
    rw [ofDigits]
    exact Nat.ofDigitChars_replicate_zero.trans (Nat.mul_zero _)
  rw [ofDigits_append, hzeros]
  rfl

/-- Zeros behind are a power of ten. -/
theorem ofDigits_append_zeros (n : Nat) (s : List Char) :
    ofDigits (s ++ List.replicate n '0') = 10 ^ n * ofDigits s := by
  rw [ofDigits_append]
  exact Nat.ofDigitChars_replicate_zero

/-! ### The three notations -/

section Notation

variable {whole fraction power rest : List Char}

/-- The whole part of a number is read off in front of whatever ends it. -/
theorem wholeDigits_append (h : IsWhole whole) (hrest : EndsDigits rest) :
    wholeDigits (whole ++ rest) = (whole, rest) := by
  obtain rfl | hhead := h.head
  · rfl
  · cases whole with
    | nil => exact absurd rfl h.ne_nil
    | cons c whole =>
        have hc : c ≠ '0' := fun hc => hhead (congrArg some hc)
        have htake := takeWhile_digits h.digits hrest
        have hdrop := dropWhile_digits h.digits hrest
        rw [List.cons_append] at htake hdrop ⊢
        unfold wholeDigits
        split
        · next heq => exact absurd (List.cons.inj heq).1 hc
        · rw [htake, hdrop]

/-- A fraction is read off behind its point, up to where the digits end. -/
theorem fractionDigits_append (h : AreDigits fraction) (hne : fraction ≠ [])
    (hrest : EndsDigits rest) : fractionDigits ('.' :: (fraction ++ rest)) = (fraction, rest) := by
  simp only [fractionDigits]
  rw [takeWhile_digits h hrest, dropWhile_digits h hrest, if_neg (by simpa using hne)]

/-- An exponent at the end of a number is read with its sign. -/
theorem exponentPart_append (negative : Bool) (h : AreDigits power) (hne : power ≠ []) :
    exponentPart ('e' :: (if negative then '-' else '+') :: power) =
      (some (if negative then -Int.ofNat (ofDigits power) else Int.ofNat (ofDigits power)),
        []) := by
  have htake := takeWhile_digits h endsDigits_nil
  have hdrop := dropWhile_digits h endsDigits_nil
  rw [List.append_nil] at htake hdrop
  have hsign : takeSign ((if negative then '-' else '+') :: power) = (negative, power) := by
    cases negative <;> rfl
  have hempty : power.isEmpty = false := by simpa using hne
  simp only [exponentPart, beq_self_eq_true, Bool.true_or, if_true, hsign, htake, hdrop, hempty,
    Bool.false_eq_true, if_false]

/-- Digits alone. -/
theorem decimalOf_whole (h : IsWhole whole) : decimalOf whole = some (⟨ofDigits whole, 0⟩, []) := by
  have hwhole := wholeDigits_append h endsDigits_nil
  rw [List.append_nil] at hwhole
  unfold decimalOf
  rw [hwhole]
  dsimp only
  rw [if_neg (by simpa using h.ne_nil)]
  simp [fractionDigits, exponentPart]

/-- Digits with a fraction. -/
theorem decimalOf_fraction (h : IsWhole whole) (hfraction : AreDigits fraction)
    (hne : fraction ≠ []) : decimalOf (whole ++ '.' :: fraction) =
      some (⟨ofDigits (whole ++ fraction), -Int.ofNat fraction.length⟩, []) := by
  have hwhole : wholeDigits (whole ++ '.' :: fraction) = (whole, '.' :: fraction) :=
    wholeDigits_append h (by simp [EndsDigits])
  have hparts := fractionDigits_append hfraction hne endsDigits_nil
  rw [List.append_nil] at hparts
  unfold decimalOf
  rw [hwhole]
  dsimp only
  rw [if_neg (by simpa using h.ne_nil), hparts]
  simp [exponentPart]

/-- Digits with a power of ten, and perhaps a fraction. -/
theorem decimalOf_power (negative : Bool) (h : IsWhole whole) (hfraction : AreDigits fraction)
    (hpower : AreDigits power) (hne : power ≠ []) :
    decimalOf (whole ++ (if fraction.isEmpty then [] else '.' :: fraction) ++
        'e' :: (if negative then '-' else '+') :: power) =
      some (⟨ofDigits (whole ++ fraction),
        (if negative then -Int.ofNat (ofDigits power) else Int.ofNat (ofDigits power)) -
          Int.ofNat fraction.length⟩, []) := by
  have hexponent := exponentPart_append negative hpower hne
  generalize htail : 'e' :: (if negative then '-' else '+') :: power = tail at hexponent ⊢
  have htailends : EndsDigits tail := by simp [EndsDigits, ← htail]
  cases fraction with
  | nil =>
      have hwhole := wholeDigits_append h htailends
      have hnone : fractionDigits tail = ([], tail) := by rw [← htail]; rfl
      simp only [List.isEmpty_nil, if_true, List.append_nil]
      unfold decimalOf
      rw [hwhole]
      dsimp only
      rw [if_neg (by simpa using h.ne_nil), hnone]
      dsimp only
      rw [hexponent]
      simp
  | cons c fraction =>
      have hwhole : wholeDigits (whole ++ '.' :: (c :: fraction ++ tail)) =
          (whole, '.' :: (c :: fraction ++ tail)) := wholeDigits_append h (by simp [EndsDigits])
      have hparts := fractionDigits_append hfraction (List.cons_ne_nil c fraction) htailends
      simp only [List.isEmpty_cons, Bool.false_eq_true, if_false, List.append_assoc,
        List.cons_append] at hwhole hparts ⊢
      unfold decimalOf
      rw [hwhole]
      dsimp only
      rw [if_neg (by simpa using h.ne_nil), hparts]
      dsimp only
      rw [hexponent]
      simp

end Notation

/-! ### The text of a decimal -/

/-- The digits with a point among, before or behind them. -/
theorem decimalOf_positional {n : Nat} (hn : 0 < n) (exponent : Int) :
    ∃ d, decimalOf (positional (Nat.toDigits 10 n)
        (Int.ofNat (Nat.toDigits 10 n).length + exponent)) = some (d, []) ∧
      d.value = n * 10 ^ exponent := by
  generalize hdigits : Nat.toDigits 10 n = digits
  have hwhole : IsWhole digits := hdigits ▸ isWhole_toDigits n
  have hvalue : ofDigits digits = n := hdigits ▸ ofDigits_toDigits n
  generalize hpoint : Int.ofNat digits.length + exponent = point
  rw [Int.ofNat_eq_natCast] at hpoint
  unfold positional
  dsimp only
  split_ifs with hsmall hlong
  · -- Zeros between the point and the digits.
    have hzero : IsWhole ['0'] := ⟨areDigits_zeros 1, by simp, .inl rfl⟩
    refine ⟨_, decimalOf_fraction hzero ((areDigits_zeros _).append hwhole.digits)
      (by simp [hwhole.ne_nil]), ?_⟩
    have hdrop : ofDigits (['0'] ++ (List.replicate (-point).toNat '0' ++ digits)) = n := by
      rw [← List.append_assoc, ← List.replicate_one, ← List.replicate_add, ofDigits_zeros_append,
        hvalue]
    have hexponent :
        -Int.ofNat (List.replicate (-point).toNat '0' ++ digits).length = exponent := by
      rw [List.length_append, List.length_replicate, Int.ofNat_eq_natCast]
      omega
    rw [Scaled.value, hdrop, hexponent]
  · -- Zeros between the digits and the point, and one behind it.
    have hzeros : IsWhole (digits ++ List.replicate (point.toNat - digits.length) '0') := by
      refine ⟨hwhole.digits.append (areDigits_zeros _), by simp [hwhole.ne_nil], .inr ?_⟩
      rw [List.head?_append, List.head?_eq_some_head hwhole.ne_nil, Option.some_or,
        ← List.head?_eq_some_head hwhole.ne_nil, ← hdigits]
      exact head?_toDigits hn
    have hzero : AreDigits ['0'] := areDigits_zeros 1
    refine ⟨_, decimalOf_fraction hzeros hzero (by simp), ?_⟩
    have hpower : exponent = ((point.toNat - digits.length : Nat) : Int) := by omega
    have hdigit : ofDigits (digits ++ List.replicate (point.toNat - digits.length) '0' ++ ['0']) =
        10 * (10 ^ (point.toNat - digits.length) * n) := by
      rw [← List.replicate_one, ofDigits_append_zeros, ofDigits_append_zeros, hvalue, pow_one]
    rw [Scaled.value, hdigit, hpower, zpow_natCast]
    simp only [List.length_singleton, Nat.cast_mul, Nat.cast_pow, Nat.cast_ofNat]
    rw [show -Int.ofNat 1 = -1 from rfl, zpow_neg_one]
    ring
  · -- The point between the digits.
    have hwholeNat : 0 < point.toNat := by omega
    refine ⟨_, decimalOf_fraction (hdigits ▸ isWhole_take hn hwholeNat)
      (fun c hc => hwhole.digits c (List.mem_of_mem_drop hc)) (by simp; omega), ?_⟩
    have hexponent : -Int.ofNat (digits.drop point.toNat).length = exponent := by
      rw [List.length_drop, Int.ofNat_eq_natCast]
      omega
    rw [Scaled.value, List.take_append_drop, hvalue, hexponent]

/-- A padded number is a row of digits that writes it. -/
theorem padded_spec (width n : Nat) :
    AreDigits (padded width n) ∧ padded width n ≠ [] ∧ ofDigits (padded width n) = n := by
  unfold padded
  refine ⟨(areDigits_zeros _).append (areDigits_toDigits n), by simp [Nat.toDigits_ne_nil], ?_⟩
  rw [ofDigits_zeros_append, ofDigits_toDigits]

/-- The digits with the point behind the first and a power of ten. -/
theorem decimalOf_scientific {n : Nat} (hn : 0 < n) (width : Nat) (exponent : Int) :
    ∃ d, decimalOf (scientific width (Nat.toDigits 10 n)
        (Int.ofNat (Nat.toDigits 10 n).length + exponent)) = some (d, []) ∧
      d.value = n * 10 ^ exponent := by
  generalize hdigits : Nat.toDigits 10 n = digits
  have hwhole : IsWhole digits := hdigits ▸ isWhole_toDigits n
  have hvalue : ofDigits digits = n := hdigits ▸ ofDigits_toDigits n
  have hlength : 0 < digits.length := List.length_pos_iff.mpr hwhole.ne_nil
  generalize hpower : Int.ofNat digits.length + exponent - 1 = power
  rw [Int.ofNat_eq_natCast] at hpower
  obtain ⟨hpadded, hne, hpaddedvalue⟩ := padded_spec width power.natAbs
  have hfraction : AreDigits (digits.drop 1) :=
    fun c hc => hwhole.digits c (List.mem_of_mem_drop hc)
  have hread := decimalOf_power (decide (power < 0)) (hdigits ▸ isWhole_take hn Nat.one_pos)
    hfraction hpadded hne
  have htext : scientific width digits (Int.ofNat digits.length + exponent) =
      digits.take 1 ++ (if (digits.drop 1).isEmpty then [] else '.' :: digits.drop 1) ++
        'e' :: (if decide (power < 0) then '-' else '+') :: padded width power.natAbs := by
    simp only [scientific, Int.ofNat_eq_natCast, hpower, List.isEmpty_iff, List.drop_eq_nil_iff,
      decide_eq_true_eq]
  rw [htext]
  refine ⟨_, hread, ?_⟩
  have hexponent : (if decide (power < 0) then -Int.ofNat (ofDigits (padded width power.natAbs))
      else Int.ofNat (ofDigits (padded width power.natAbs))) -
        Int.ofNat (digits.drop 1).length = exponent := by
    rw [hpaddedvalue, List.length_drop]
    simp only [decide_eq_true_eq, Int.ofNat_eq_natCast]
    split_ifs <;> omega
  rw [Scaled.value, List.take_append_drop, hvalue, hexponent]

/-- **The text of a decimal writes its number.** -/
theorem decimalOf_text (style : FloatStyle) {d : Scaled} (hd : 0 < d.digits) :
    ∃ e, decimalOf (d.text style) = some (e, []) ∧ e.value = d.value := by
  unfold Scaled.text
  dsimp only
  split_ifs
  · exact decimalOf_positional hd d.exponent
  · exact decimalOf_scientific hd style.exponentDigits d.exponent

/-! ### The characters of a text -/

/-- A digit is a character that a number is written with. -/
theorem isNumberChar_of_isDigit {c : Char} (h : c.isDigit = true) : isNumberChar c = true := by
  simp [isNumberChar, h]

/-- The positional form of a number is written with the characters of a number. -/
theorem isNumberChar_positional {digits : List Char} (h : AreDigits digits) (point : Int) :
    ∀ c ∈ positional digits point, isNumberChar c = true := by
  intro c hc
  unfold positional at hc
  dsimp only at hc
  split_ifs at hc
  · simp only [List.mem_cons, List.mem_append, List.mem_replicate] at hc
    obtain rfl | rfl | ⟨-, rfl⟩ | hc := hc
    · rfl
    · rfl
    · rfl
    · exact isNumberChar_of_isDigit (h c hc)
  · simp only [List.mem_cons, List.mem_append, List.mem_replicate, List.not_mem_nil, or_false] at hc
    obtain (hc | ⟨-, rfl⟩) | rfl | rfl := hc
    · exact isNumberChar_of_isDigit (h c hc)
    · rfl
    · rfl
    · rfl
  · simp only [List.mem_cons, List.mem_append] at hc
    obtain hc | rfl | hc := hc
    · exact isNumberChar_of_isDigit (h c (List.mem_of_mem_take hc))
    · rfl
    · exact isNumberChar_of_isDigit (h c (List.mem_of_mem_drop hc))

/-- The scientific form of a number is written with the characters of a number. -/
theorem isNumberChar_scientific {digits : List Char} (h : AreDigits digits) (width : Nat)
    (point : Int) : ∀ c ∈ scientific width digits point, isNumberChar c = true := by
  intro c hc
  unfold scientific at hc
  simp only [List.mem_append, List.mem_cons, List.mem_ite_nil_left] at hc
  obtain (hc | ⟨-, rfl | hc⟩) | rfl | rfl | hc := hc
  · exact isNumberChar_of_isDigit (h c (List.mem_of_mem_take hc))
  · rfl
  · exact isNumberChar_of_isDigit (h c (List.mem_of_mem_drop hc))
  · rfl
  · split <;> rfl
  · exact isNumberChar_of_isDigit ((padded_spec _ _).1 c hc)

/-- The text of a decimal consists of what numbers consist of. -/
theorem isNumberChar_text (style : FloatStyle) (d : Scaled) :
    ∀ c ∈ d.text style, isNumberChar c = true := by
  unfold Scaled.text
  dsimp only
  split_ifs
  · exact isNumberChar_positional (areDigits_toDigits _) _
  · exact isNumberChar_scientific (areDigits_toDigits _) _ _

end ClientScribe.Decimal
