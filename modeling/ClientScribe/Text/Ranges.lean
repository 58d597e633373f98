/-!
# Sets of characters as ranges

The larger character classes are tables of closed ranges of character numbers. This module holds
the test for such a table and the shape of a row of a case mapping.
-/

namespace ClientScribe.Text

/-- Whether a number lies in one of the closed ranges. -/
def inRanges (ranges : Array (Nat × Nat)) (n : Nat) : Bool :=
  ranges.any fun r => r.1 ≤ n && n ≤ r.2

/-- A run of characters, every `step`-th from `first` to `last`, that a case mapping moves by one
offset. -/
structure CaseRun where
  first : Nat
  last : Nat
  step : Nat
  offset : Int

/-- Whether a character number belongs to the run. -/
def CaseRun.covers (r : CaseRun) (n : Nat) : Bool :=
  r.first ≤ n && n ≤ r.last && (n - r.first) % r.step == 0

/-- Where the run moves a character number. -/
def CaseRun.move (r : CaseRun) (n : Nat) : Char :=
  Char.ofNat (Int.ofNat n + r.offset).toNat

end ClientScribe.Text
