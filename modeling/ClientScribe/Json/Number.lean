import ClientScribe.Decimal.Reading
import ClientScribe.Document.Value
import ClientScribe.Error

/-!
# Numbers of JSON documents

A number without fraction and exponent is a whole number of any size up to the limit on digits; with
either of them it is a float.
-/

namespace ClientScribe.Json

open Document (ReadFault Value)

/-- The digits of a whole number: a zero alone, or digits that do not start with one. -/
def wholeDigits : List Char → List Char × List Char
  | '0' :: rest => (['0'], rest)
  | s => (s.takeWhile Char.isDigit, s.dropWhile Char.isDigit)

/-- The digits of a fraction, if a point with a digit behind it follows. -/
def fractionDigits : List Char → List Char × List Char
  | '.' :: rest =>
    let digits := rest.takeWhile Char.isDigit
    if digits.isEmpty then ([], '.' :: rest) else (digits, rest.dropWhile Char.isDigit)
  | s => ([], s)

/-- The exponent, if a complete one follows. -/
def exponentPart : List Char → Option Int × List Char
  | [] => (none, [])
  | e :: rest =>
    if e == 'e' || e == 'E' then
      let (negative, body) := Decimal.takeSign rest
      let digits := body.takeWhile Char.isDigit
      if digits.isEmpty then (none, e :: rest)
      else
        let power := Int.ofNat (Decimal.ofDigits digits)
        (some (if negative then -power else power), body.dropWhile Char.isDigit)
    else (none, e :: rest)

/-- Reads the number at the start of a row of characters. -/
def numberOf (s : List Char) : Except ReadFault (Value × List Char) :=
  let (negative, body) :=
    match s with
    | '-' :: rest => (true, rest)
    | s => (false, s)
  let (whole, rest) := wholeDigits body
  if whole.isEmpty then .error .malformed
  else
    let (fraction, rest) := fractionDigits rest
    let (power?, rest) := exponentPart rest
    if fraction.isEmpty && power?.isNone then
      if Decimal.mostDigits < whole.length then .error .impossible
      else
        let n := Int.ofNat (Decimal.ofDigits whole)
        .ok (.int (if negative then -n else n), rest)
    else
      let digits := Decimal.ofDigits (whole ++ fraction)
      let x := Decimal.toFloat digits (power?.getD 0 - Int.ofNat fraction.length)
      .ok (.float (if negative then -x else x), rest)

/-- What numbers consist of. -/
def isNumberChar (c : Char) : Bool :=
  c.isDigit || c == '-' || c == '+' || c == '.' || c == 'e' || c == 'E'

/-- Reads the number at the start of a text. -/
def number (s : Text) : Except ReadFault (Value × Text) := do
  let front := (s.takeWhile (·.satisfies isNumberChar)).filterMap CodePoint.char?
  let (v, behind) ← numberOf front
  return (v, s.drop (front.length - behind.length))

end ClientScribe.Json
