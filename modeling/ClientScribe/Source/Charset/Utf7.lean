import ClientScribe.Source.Charset.Unicode
import ClientScribe.Text.Basic

/-!
# UTF-7

ASCII stands for itself, but a plus sign begins a section of UTF-16 units in base 64, six bits to a
character. A character outside the base ends the section; a hyphen that does so is dropped. The bits
that are left over have to be zero and fewer than six. A half of a pair that stands alone is kept.

## Main definitions

* `Section`: the bits of a section that are not yet a unit.
* `utf7From`: reads bytes, from the middle of a section or from outside of one.
-/

namespace ClientScribe.Source

/-- The value of a digit in base 64. -/
def base64Value? (b : UInt8) : Option Nat :=
  let n := b.toNat
  if 0x41 ≤ n && n ≤ 0x5A then some (n - 0x41)
  else if 0x61 ≤ n && n ≤ 0x7A then some (n - 0x61 + 26)
  else if 0x30 ≤ n && n ≤ 0x39 then some (n - 0x30 + 52)
  else if n == 0x2B then some 62
  else if n == 0x2F then some 63
  else none

/-- What a section has read: the number and the value of the bits that are not yet a unit, and the
first half of a pair that waits for the second one. -/
structure Section where
  count : Nat := 0
  bits : Nat := 0
  waiting : Option Nat := none

namespace Section

/-- Adds a unit to a section: what it writes, and the half that waits behind it. -/
def addUnit (waiting : Option Nat) (unit : Nat) : Text × Option Nat :=
  let isFirst := 0xD800 ≤ unit && unit < 0xDC00
  let isSecond := 0xDC00 ≤ unit && unit < 0xE000
  match waiting with
  | some first =>
    if isSecond then
      ([.char (Char.ofNat (0x10000 + (first - 0xD800) * 0x400 + (unit - 0xDC00)))], none)
    else if isFirst then ([.ofNat first], some unit)
    else ([.ofNat first, .ofNat unit], none)
  | none => if isFirst then ([], some unit) else ([.ofNat unit], none)

/-- Adds six bits to a section, and gives what they complete. -/
def push (s : Section) (digit : Nat) : Text × Section :=
  let count := s.count + 6
  let bits := s.bits * 64 + digit
  if 16 ≤ count then
    let left := count - 16
    let (t, waiting) := addUnit s.waiting (bits / Nat.pow 2 left)
    (t, ⟨left, bits % Nat.pow 2 left, waiting⟩)
  else ([], ⟨count, bits, s.waiting⟩)

/-- Whether a section can end: no digit is missing for a unit. -/
def isWhole (s : Section) : Bool := s.count < 6 && s.bits == 0

end Section

/-- Where a reader of UTF-7 stands. -/
inductive Utf7Place where
  | outside
  /-- Behind a plus sign. -/
  | opened
  | inside (s : Section)

/-- What a byte outside of a section writes. -/
def plainByte (b : UInt8) : CodePoint :=
  if b < 0x80 then .char (Char.ofNat b.toNat) else .char replacement

/-- Reads bytes in UTF-7 from a place on. -/
def utf7From : Utf7Place → List UInt8 → Text
  | .outside, [] => []
  | .outside, b :: rest =>
    if b == 0x2B then utf7From .opened rest else plainByte b :: utf7From .outside rest
  | .opened, [] => []
  | .opened, b :: rest =>
    if b == 0x2D then .char '+' :: utf7From .outside rest
    else match base64Value? b with
      | some digit =>
        let (t, s) := Section.push {} digit
        t ++ utf7From (.inside s) rest
      | none => .char replacement :: utf7From .outside rest
  | .inside s, [] => if s.isWhole && s.waiting.isNone then [] else [.char replacement]
  | .inside s, b :: rest =>
    match base64Value? b with
    | some digit =>
      let (t, s) := s.push digit
      t ++ utf7From (.inside s) rest
    | none =>
      if s.isWhole then
        let alone := if b < 0x80 then s.waiting.toList.map CodePoint.ofNat else []
        let own := if b == 0x2D then [] else [plainByte b]
        alone ++ own ++ utf7From .outside rest
      else .char replacement :: utf7From .outside rest

end ClientScribe.Source
