import ClientScribe.Decimal.Shortest

/-!
# The text of a float

The shortest decimal that is read back, written out in full from `0.0001` up to below `10 ^ 16` and
with a power of ten outside; a whole number keeps one zero behind its point.
-/

namespace ClientScribe.Decimal

/-- Where the decimal notations of a float begin and end, and the words for what has no digits. -/
structure FloatStyle where
  /-- The positions of the decimal point from which and up to which all digits are written out. -/
  leastPoint : Int
  greatestPoint : Int
  /-- The least number of digits of a power of ten. -/
  exponentDigits : Nat
  infinity : String
  notANumber : String

/-- Floats in messages, types and documents: in full from `0.0001` up to below `10 ^ 16`. -/
def plain : FloatStyle := ⟨-3, 16, 2, "inf", "nan"⟩

/-- Floats in the service descriptor: as everywhere, with the words of its literal language. -/
def literal : FloatStyle := ⟨-3, 16, 2, "Infinity", "NaN"⟩

/-- A number of at least the given count of digits. -/
def padded (width n : Nat) : List Char :=
  let digits := Nat.toDigits 10 n
  List.replicate (width - digits.length) '0' ++ digits

/-- The digits with the decimal point at a position, which may lie outside them. -/
def positional (digits : List Char) (point : Int) : List Char :=
  if point ≤ 0 then '0' :: '.' :: (List.replicate (-point).toNat '0' ++ digits)
  else
    let whole := point.toNat
    if digits.length ≤ whole then
      digits ++ List.replicate (whole - digits.length) '0' ++ ['.', '0']
    else digits.take whole ++ '.' :: digits.drop whole

/-- The digits with the decimal point behind the first and a power of ten. -/
def scientific (exponentDigits : Nat) (digits : List Char) (point : Int) : List Char :=
  let fraction := if digits.length ≤ 1 then [] else '.' :: digits.drop 1
  let power := point - 1
  let sign := if power < 0 then '-' else '+'
  digits.take 1 ++ fraction ++ 'e' :: sign :: padded exponentDigits power.natAbs

/-- The text of a decimal. -/
def Scaled.text (n : FloatStyle) (d : Scaled) : List Char :=
  let digits := Nat.toDigits 10 d.digits
  let point := Int.ofNat digits.length + d.exponent
  if n.leastPoint ≤ point && point ≤ n.greatestPoint then positional digits point
  else scientific n.exponentDigits digits point

/-- The text of a float. -/
def floatText (n : FloatStyle) (x : Float) : String :=
  let signed (negative : Bool) (s : List Char) : String :=
    String.ofList (if negative then '-' :: s else s)
  match Binary.ofFloat x with
  | .notANumber => n.notANumber
  | .infinite negative => signed negative n.infinity.toList
  | .finite negative significand exponent =>
    if significand == 0 then signed negative ['0', '.', '0']
    else signed negative ((shortest significand exponent).text n)

end ClientScribe.Decimal
