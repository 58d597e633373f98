import ClientScribe.Decimal.Shortest
import Mathlib.Algebra.Field.Rat
import Mathlib.Algebra.Order.Field.Power
import Mathlib.Algebra.Order.Ring.Rat
import Mathlib.Tactic.Linarith
import Mathlib.Tactic.NormNum
import Mathlib.Tactic.Positivity
import Mathlib.Tactic.Ring

/-!
# The Shortest Decimal Is Read As Its Float

A number is read as a float if it lies between the midpoints to the float's two neighbours
(`IsReadAs`). The shortest decimal of a float is taken from the first grid that has a point in this
interval, so all there is to show is that the search ends with such a grid: a grid that is not
coarser than a quarter of the float's unit has its last point at or before the float inside, and the
search goes down that far (`isReadAs_shortest`).

Points are compared as whole numbers after scaling; both sides are scaled by the same positive
number, which `contains_iff` takes away.
-/

namespace ClientScribe.Decimal

/-- The number that a decimal writes. -/
def Scaled.value (d : Scaled) : ℚ := d.digits * 10 ^ d.exponent

/-- The number lies in an interval that is measured in quarters of `2 ^ exponent`. -/
def Interval.Holds (i : Interval) (exponent : Int) (q : ℚ) : Prop :=
  if i.closed then i.low * (2 : ℚ) ^ (exponent - 2) ≤ q ∧ q ≤ i.high * (2 : ℚ) ^ (exponent - 2)
  else i.low * (2 : ℚ) ^ (exponent - 2) < q ∧ q < i.high * (2 : ℚ) ^ (exponent - 2)

/-- The number is read as the float `significand · 2 ^ exponent`: no other float is nearer, and of
two that are equally near this one has the even significand. -/
def IsReadAs (significand : Nat) (exponent : Int) (q : ℚ) : Prop :=
  (Interval.ofFinite significand exponent).Holds exponent q

/-! ### Scaling -/

/-- A power with a whole exponent from powers with natural ones. -/
theorem pow_toNat {b : ℚ} (hb : b ≠ 0) (z : Int) : b ^ z.toNat = b ^ z * b ^ (-z).toNat := by
  have hz : (z.toNat : Int) = z + ((-z).toNat : Int) := by omega
  rw [← zpow_natCast b z.toNat, hz, zpow_add₀ hb, zpow_natCast]

section Grid

variable {i : Interval} {exponent k : Int} {n : Nat}

/-- The scaled spacing of a grid. -/
def gridUnit (exponent k : Int) : Nat := Nat.pow 10 k.toNat * Nat.pow 2 (2 - exponent).toNat

/-- The scaled quarter of a float's unit. -/
def floatUnit (exponent k : Int) : Nat := Nat.pow 2 (exponent - 2).toNat * Nat.pow 10 (-k).toNat

/-- The factor by which both have been scaled. -/
def scale (exponent k : Int) : ℚ := 10 ^ (-k).toNat * 2 ^ (2 - exponent).toNat

/-- The scale of a float's exponent and a power of ten is positive. -/
theorem scale_pos : 0 < scale exponent k := by
  unfold scale
  positivity

/-- The unit of the decimal grid, in the rationals: a power of ten on the common scale. -/
theorem cast_gridUnit : (gridUnit exponent k : ℚ) = 10 ^ k * scale exponent k := by
  have hten : (10 : ℚ) ^ k.toNat = 10 ^ k * 10 ^ (-k).toNat := pow_toNat (by norm_num) k
  simp only [gridUnit, scale, Nat.pow_eq, Nat.cast_mul, Nat.cast_pow, Nat.cast_ofNat, hten]
  ring

/-- The unit of the floats around the value, in the rationals: a quarter step on the common scale.
-/
theorem cast_floatUnit : (floatUnit exponent k : ℚ) = 2 ^ (exponent - 2) * scale exponent k := by
  have htwo : (2 : ℚ) ^ (exponent - 2).toNat = 2 ^ (exponent - 2) * 2 ^ (2 - exponent).toNat := by
    rw [pow_toNat (by norm_num) (exponent - 2), neg_sub]
  simp only [floatUnit, scale, Nat.pow_eq, Nat.cast_mul, Nat.cast_pow, Nat.cast_ofNat, htwo]
  ring

/-- The comparison of scaled points is that of the numbers. -/
theorem contains_iff : i.contains (floatUnit exponent k) (n * gridUnit exponent k) = true ↔
    i.Holds exponent (n * 10 ^ k) := by
  have hscale : 0 < scale exponent k := scale_pos
  have hpoint : ((n * gridUnit exponent k : Nat) : ℚ) = n * 10 ^ k * scale exponent k := by
    rw [Nat.cast_mul, cast_gridUnit, mul_assoc]
  have hend (m : Nat) : ((m * floatUnit exponent k : Nat) : ℚ) =
      m * 2 ^ (exponent - 2) * scale exponent k := by
    rw [Nat.cast_mul, cast_floatUnit, mul_assoc]
  unfold Interval.contains Interval.Holds
  split
  · rw [Bool.and_eq_true, decide_eq_true_eq, decide_eq_true_eq, ← Nat.cast_le (α := ℚ),
      ← Nat.cast_le (α := ℚ), hpoint, hend, hend, mul_le_mul_iff_left₀ hscale,
      mul_le_mul_iff_left₀ hscale]
  · rw [Bool.and_eq_true, decide_eq_true_eq, decide_eq_true_eq, ← Nat.cast_lt (α := ℚ),
      ← Nat.cast_lt (α := ℚ), hpoint, hend, hend, mul_lt_mul_iff_left₀ hscale,
      mul_lt_mul_iff_left₀ hscale]

/-! ### One grid -/

/-- The last point of a grid at or before a float. -/
def pointBelow (i : Interval) (exponent k : Int) : Nat :=
  i.value * floatUnit exponent k / gridUnit exponent k

/-- Whether a point of a grid lies in the interval. -/
def isInside (i : Interval) (exponent k : Int) (n : Nat) : Bool :=
  i.contains (floatUnit exponent k) (n * gridUnit exponent k)

/-- A grid is asked for its points beside the float; one of them that lies inside is its answer. -/
theorem onGrid?_cases (i : Interval) (exponent k : Int) :
    (∃ n, i.onGrid? exponent k = some n ∧ isInside i exponent k n = true) ∨
      (i.onGrid? exponent k = none ∧ isInside i exponent k (pointBelow i exponent k) = false) := by
  cases hbelow : isInside i exponent k (pointBelow i exponent k) <;>
    cases habove : isInside i exponent k (pointBelow i exponent k + 1) <;>
    simp only [isInside, pointBelow, gridUnit, floatUnit] at hbelow habove ⊢
  · exact .inr ⟨by simp only [Interval.onGrid?, hbelow, habove], trivial⟩
  · exact .inl ⟨_, by simp only [Interval.onGrid?, hbelow, habove], habove⟩
  · exact .inl ⟨_, by simp only [Interval.onGrid?, hbelow, habove], hbelow⟩
  · simp only [Interval.onGrid?, hbelow, habove]
    left
    split_ifs
    · exact ⟨_, rfl, hbelow⟩
    · exact ⟨_, rfl, habove⟩
    · exact ⟨_, rfl, hbelow⟩
    · exact ⟨_, rfl, habove⟩

/-- The last point at or before the float lies inside if the grid is not coarser than a quarter of
the float's unit. -/
theorem isInside_pointBelow (hlow : i.low < i.value) (hhigh : i.value < i.high)
    (hfine : (10 : ℚ) ^ k ≤ 2 ^ (exponent - 2)) :
    isInside i exponent k (pointBelow i exponent k) = true := by
  have hunits : gridUnit exponent k ≤ floatUnit exponent k := by
    rw [← Nat.cast_le (α := ℚ), cast_gridUnit, cast_floatUnit]
    exact (mul_le_mul_iff_left₀ scale_pos).mpr hfine
  have hgrid : 0 < gridUnit exponent k := by
    unfold gridUnit
    exact Nat.mul_pos (Nat.pow_pos (by decide)) (Nat.pow_pos (by decide))
  have hle := Nat.div_mul_le_self (i.value * floatUnit exponent k) (gridUnit exponent k)
  have hlt := Nat.lt_div_mul_add hgrid (a := i.value * floatUnit exponent k)
  have hleft : i.low * floatUnit exponent k + floatUnit exponent k ≤
      i.value * floatUnit exponent k := by
    rw [← Nat.succ_mul]
    exact Nat.mul_le_mul_right _ hlow
  have hright : i.value * floatUnit exponent k + floatUnit exponent k ≤
      i.high * floatUnit exponent k := by
    rw [← Nat.succ_mul]
    exact Nat.mul_le_mul_right _ hhigh
  unfold isInside pointBelow Interval.contains
  split <;> rw [Bool.and_eq_true, decide_eq_true_eq, decide_eq_true_eq] <;> omega

/-! ### The search -/

/-- If one of the grids that are searched has the point at or before the float inside, a point of
the interval is found. -/
theorem holds_coarsest {steps : Nat}
    (h : ∃ j < steps, isInside i exponent (k - j) (pointBelow i exponent (k - j)) = true) :
    i.Holds exponent (i.coarsest exponent steps k).value := by
  induction steps generalizing k with
  | zero =>
      obtain ⟨j, hj, -⟩ := h
      exact absurd hj (Nat.not_lt_zero j)
  | succ steps ih =>
      unfold Interval.coarsest
      obtain ⟨n, hn, hinside⟩ | ⟨hnone, houtside⟩ := onGrid?_cases i exponent k
      · rw [hn]
        exact contains_iff.mp hinside
      · rw [hnone]
        obtain ⟨j, hj, hinside⟩ := h
        cases j with
        | zero => simp [houtside] at hinside
        | succ j =>
            refine ih ⟨j, Nat.lt_of_succ_lt_succ hj, ?_⟩
            rwa [show k - 1 - (j : Int) = k - ((j + 1 : Nat) : Int) by omega]

end Grid

/-- A power of ten below one is not above the power of two with the exponent before. -/
theorem ten_zpow_neg_le {n : Nat} (hn : 0 < n) :
    (10 : ℚ) ^ (-(n : Int)) ≤ 2 ^ (-(n : Int) - 1) := by
  have htwo : (2 : ℚ) ≤ 5 ^ n := by
    have hfive : (5 : ℚ) ^ 1 ≤ 5 ^ n := pow_le_pow_right₀ (by norm_num) hn
    linarith
  have hten : (2 : ℚ) ^ (n + 1) ≤ 10 ^ n :=
    calc (2 : ℚ) ^ (n + 1) = 2 ^ n * 2 := pow_succ 2 n
      _ ≤ 2 ^ n * 5 ^ n := by gcongr
      _ = 10 ^ n := by rw [← mul_pow]; norm_num
  have hinv : ((10 : ℚ) ^ n)⁻¹ ≤ ((2 : ℚ) ^ (n + 1))⁻¹ := inv_anti₀ (by positivity) hten
  rwa [← zpow_natCast, ← zpow_natCast, ← zpow_neg, ← zpow_neg,
    show -((n + 1 : Nat) : Int) = -(n : Int) - 1 by omega] at hinv

/-- The smallest grid of the search is not coarser than a quarter of the unit of any float. -/
theorem ten_zpow_le {exponent : Int} (h : leastExponent ≤ exponent) :
    (10 : ℚ) ^ (leastExponent - 1) ≤ 2 ^ (exponent - 2) := by
  have hleast : leastExponent - 1 = -((1075 : Nat) : Int) := rfl
  calc (10 : ℚ) ^ (leastExponent - 1) ≤ 2 ^ (leastExponent - 1 - 1) := by
        rw [hleast]
        exact ten_zpow_neg_le (by decide)
    _ ≤ 2 ^ (exponent - 2) := zpow_le_zpow_right₀ (by norm_num) (by omega)

/-- **The shortest decimal of a positive float is read as this float.** -/
theorem isReadAs_shortest {significand : Nat} {exponent : Int} (hpos : 0 < significand)
    (hexponent : leastExponent ≤ exponent) :
    IsReadAs significand exponent (shortest significand exponent).value := by
  unfold shortest
  set top := (Int.ofNat significand.log2 + exponent + 2) * 30103 / 100000 + 1 with htop
  have hleast : leastExponent = -1074 := rfl
  have hlog : 0 ≤ Int.ofNat significand.log2 := Int.natCast_nonneg _
  -- The last grid that is searched is `10 ^ (leastExponent - 1)`.
  refine holds_coarsest ⟨(top - (leastExponent - 1)).toNat, by omega, ?_⟩
  rw [show top - ((top - (leastExponent - 1)).toNat : Int) = leastExponent - 1 by omega]
  refine isInside_pointBelow ?_ ?_ (ten_zpow_le hexponent)
  · simp only [Interval.ofFinite]
    split <;> omega
  · simp only [Interval.ofFinite]
    omega

/-- The exponent of a finite float is not below the smallest one. -/
theorem leastExponent_le {x : Float} {negative : Bool} {significand : Nat} {exponent : Int}
    (h : Binary.ofFloat x = .finite negative significand exponent) : leastExponent ≤ exponent := by
  simp only [Binary.ofFloat, beq_iff_eq] at h
  have hleast : leastExponent = -1074 := rfl
  split_ifs at h with hspecial hzero hsub
  · obtain ⟨-, -, rfl⟩ := Binary.finite.inj h
    exact le_refl _
  · obtain ⟨-, -, rfl⟩ := Binary.finite.inj h
    have hexp : 1 ≤ x.toBits.toNat / Nat.pow 2 52 % 2048 := Nat.one_le_iff_ne_zero.mpr hsub
    rw [hleast, Int.ofNat_eq_natCast]
    omega

/-- What a float's text writes is positive if the float is. -/
theorem digits_pos_of_isReadAs {significand : Nat} {exponent : Int} {d : Scaled}
    (hpos : 0 < significand) (h : IsReadAs significand exponent d.value) : 0 < d.digits := by
  refine Nat.pos_of_ne_zero fun hzero => ?_
  have hvalue : d.value = 0 := by simp [Scaled.value, hzero]
  have hlow : 0 < (Interval.ofFinite significand exponent).low := by
    simp only [Interval.ofFinite]
    split <;> omega
  have hend : (0 : ℚ) < (Interval.ofFinite significand exponent).low * 2 ^ (exponent - 2) := by
    have : (0 : ℚ) < (Interval.ofFinite significand exponent).low := by exact_mod_cast hlow
    positivity
  rw [IsReadAs, Interval.Holds, hvalue] at h
  split at h
  · exact absurd h.1 (not_le.mpr hend)
  · exact absurd h.1 (not_lt.mpr hend.le)

end ClientScribe.Decimal
