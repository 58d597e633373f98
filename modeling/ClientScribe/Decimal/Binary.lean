/-!
# The parts of a binary float

A float of 64 bits is read as a sign with a whole significand and a power of two, as an infinity, or
as not a number. Everything exact about floats starts from these parts.
-/

namespace ClientScribe.Decimal

/-- What the 64 bits of a float stand for. -/
inductive Binary where
  /-- The number `significand · 2 ^ exponent`, or its negative. -/
  | finite (negative : Bool) (significand : Nat) (exponent : Int)
  | infinite (negative : Bool)
  | notANumber

/-- The smallest exponent of a finite float. -/
def leastExponent : Int := -1074

/-- The parts of a float: one bit of sign, eleven of exponent, fifty-two of fraction. -/
def Binary.ofFloat (x : Float) : Binary :=
  let bits := x.toBits.toNat
  let negative := bits / Nat.pow 2 63 == 1
  let exponent := bits / Nat.pow 2 52 % 2048
  let fraction := bits % Nat.pow 2 52
  if exponent == 2047 then
    if fraction == 0 then .infinite negative else .notANumber
  else if exponent == 0 then .finite negative fraction leastExponent
  else .finite negative (fraction + Nat.pow 2 52) (Int.ofNat exponent - 1075)

/-- The float as a whole number, if it is one. -/
def Binary.toInt? : Binary → Option Int
  | .finite negative significand exponent =>
    let whole : Option Nat :=
      if 0 ≤ exponent then some (significand * Nat.pow 2 exponent.toNat)
      else
        let unit := Nat.pow 2 (-exponent).toNat
        if significand % unit == 0 then some (significand / unit) else none
    whole.map fun n => if negative then -Int.ofNat n else Int.ofNat n
  | _ => none

/-- The float without its fraction, towards zero, if it is finite. -/
def Binary.truncate? : Binary → Option Int
  | .finite negative significand exponent =>
    let whole :=
      if 0 ≤ exponent then significand * Nat.pow 2 exponent.toNat
      else significand / Nat.pow 2 (-exponent).toNat
    some (if negative then -Int.ofNat whole else Int.ofNat whole)
  | _ => none

end ClientScribe.Decimal
