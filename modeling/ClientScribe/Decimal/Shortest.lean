import ClientScribe.Decimal.Binary

/-!
# The shortest decimal of a float

Every real number between the midpoints to a float's two neighbours is read as that float. The
shortest decimal of the float is taken from the coarsest decimal grid that has a point in this
interval; of two such points the nearer one is taken, and of two equally near the even one.

All comparisons are between whole numbers: the interval is measured in quarters of the float's unit,
and a point `digits · 10 ^ exponent` is compared with it after both are scaled.
-/

namespace ClientScribe.Decimal

/-- The decimal `digits · 10 ^ exponent`. -/
structure Scaled where
  digits : Nat
  exponent : Int

/-- The reals that are read as one positive float, in quarters of its unit. -/
structure Interval where
  low : Nat
  value : Nat
  high : Nat
  /-- Whether the two ends belong to the interval. -/
  closed : Bool

/-- The interval of `significand · 2 ^ exponent`. Below a power of two the neighbour is only half as
far away; the ends go to the even significand. -/
def Interval.ofFinite (significand : Nat) (exponent : Int) : Interval where
  low :=
    if significand == Nat.pow 2 52 && leastExponent < exponent then 4 * significand - 1
    else 4 * significand - 2
  value := 4 * significand
  high := 4 * significand + 2
  closed := significand % 2 == 0

/-- Whether a scaled point lies in the interval scaled by `unit`. -/
def Interval.contains (i : Interval) (unit point : Nat) : Bool :=
  if i.closed then i.low * unit ≤ point && point ≤ i.high * unit
  else i.low * unit < point && point < i.high * unit

/-- The nearest point of the grid of `10 ^ k` that lies in the interval of a float whose unit is
`2 ^ exponent`. -/
def Interval.onGrid? (i : Interval) (exponent k : Int) : Option Nat :=
  let grid := Nat.pow 10 k.toNat * Nat.pow 2 (2 - exponent).toNat
  let unit := Nat.pow 2 (exponent - 2).toNat * Nat.pow 10 (-k).toNat
  let below := i.value * unit / grid
  let above := below + 1
  match i.contains unit (below * grid), i.contains unit (above * grid) with
  | false, false => none
  | true, false => some below
  | false, true => some above
  | true, true =>
    let toBelow := i.value * unit - below * grid
    let toAbove := above * grid - i.value * unit
    if toBelow < toAbove then some below
    else if toAbove < toBelow then some above
    else if below % 2 == 0 then some below else some above

/-- The first grid from `10 ^ k` downwards with a point in the interval. -/
def Interval.coarsest (i : Interval) (exponent : Int) : Nat → Int → Scaled
  | 0, k => ⟨i.value, k⟩
  | steps + 1, k =>
    match i.onGrid? exponent k with
    | some digits => ⟨digits, k⟩
    | none => i.coarsest exponent steps (k - 1)

/-- The shortest decimal that is read back as the positive float `significand · 2 ^ exponent`. The
search starts above the float; the unit of the smallest float ends it at the latest. -/
def shortest (significand : Nat) (exponent : Int) : Scaled :=
  let top := (Int.ofNat significand.log2 + exponent + 2) * 30103 / 100000 + 1
  (Interval.ofFinite significand exponent).coarsest exponent (top - leastExponent + 2).toNat top

end ClientScribe.Decimal
