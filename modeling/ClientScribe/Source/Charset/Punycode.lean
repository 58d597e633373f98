import ClientScribe.Source.Charset.Unicode
import ClientScribe.Text.Basic

/-!
# Punycode

The ASCII characters of a text stand in front of the last hyphen. Behind it numbers tell where the
others go: every number is the distance from the place and the character before, counted as if all
places were gone through once for every character. The digits of a number are letters and figures,
and thresholds tell which one is its last; they follow the size of the numbers before.

## Main definitions

* `punycodeNumber`: reads one number.
* `punycodeInsert`: puts the characters into a text.
* `punycode?`: reads bytes.
-/

namespace ClientScribe.Source

/-- The value of a digit, which is a capital letter or a figure. -/
def punycodeDigit? (b : UInt8) : Option Nat :=
  if 0x41 ≤ b && b ≤ 0x5A then some (b.toNat - 0x41)
  else if 0x30 ≤ b && b ≤ 0x39 then some (b.toNat - 22)
  else none

/-- The threshold of a digit by its place. -/
def punycodeThreshold (place bias : Nat) : Nat :=
  let n := 36 * (place + 1) - bias
  if n < 1 then 1 else if 26 < n then 26 else n

/-- Reads a number, least digit first, and gives what is behind it. -/
def punycodeNumber (bias place weight sum : Nat) : List UInt8 → Option (Nat × List UInt8)
  | [] => none
  | b :: rest =>
    match punycodeDigit? b with
    | none => none
    | some digit =>
      let sum := sum + digit * weight
      let threshold := punycodeThreshold place bias
      if digit < threshold then some (sum, rest)
      else punycodeNumber bias (place + 1) (weight * (36 - threshold)) sum rest

/-- The bias of a number and the steps that bring it under the limit. -/
def punycodeSteps : (fuel : Nat) → (delta steps : Nat) → Nat
  | 0, _, steps => steps
  | fuel + 1, delta, steps =>
    if 455 < delta then punycodeSteps fuel (delta / 35) (steps + 36)
    else steps + 36 * delta / (delta + 38)

/-- The bias behind a number, in a text of so many characters. -/
def punycodeBias (delta : Nat) (isFirst : Bool) (length : Nat) : Nat :=
  let delta := if isFirst then delta / 700 else delta / 2
  let delta := delta + delta / length
  punycodeSteps (delta.log2 + 1) delta 0

/-- Where the next character goes. -/
structure PunycodeState where
  text : Text
  char : Nat := 0x80
  /-- The place behind the last character that was put in. -/
  place : Nat := 0
  bias : Nat := 72
  isFirst : Bool := true

/-- The text with one more character; a character beyond the last one is a question mark. -/
def PunycodeState.insert (s : PunycodeState) (delta : Nat) : PunycodeState :=
  let length := s.text.length + 1
  let place := s.place + delta
  let char := s.char + place / length
  let char := if 0x10FFFF < char then '?'.toNat else char
  let place := place % length
  { text := s.text.take place ++ .ofNat char :: s.text.drop place
    char := char
    place := place + 1
    bias := punycodeBias delta s.isFirst length
    isFirst := false }

/-- Puts in characters as the numbers say, up to one that is not whole. -/
def punycodeInsert : (fuel : Nat) → PunycodeState → List UInt8 → Text
  | 0, s, _ => s.text
  | fuel + 1, s, bytes =>
    match punycodeNumber s.bias 0 1 0 bytes with
    | some (delta, rest) => punycodeInsert fuel (s.insert delta) rest
    | none => s.text

/-- The byte with a small letter made a capital. -/
def capitalByte (b : UInt8) : UInt8 := if 0x61 ≤ b && b ≤ 0x7A then b - 0x20 else b

/-- Reads bytes in Punycode. Behind the hyphen all bytes are ASCII. -/
def punycode? (bytes : List UInt8) : Option Text :=
  let behind := (bytes.reverse.takeWhile (· != 0x2D)).reverse
  let plain := bytes.take (bytes.length - behind.length - 1)
  if behind.all (· < 0x80) then
    let text := plain.map fun b =>
      CodePoint.char (if b < 0x80 then Char.ofNat b.toNat else replacement)
    some (punycodeInsert behind.length { text } (behind.map capitalByte))
  else none

end ClientScribe.Source
