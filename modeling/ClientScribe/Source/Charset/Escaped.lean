import ClientScribe.Source.Charset.Front
import ClientScribe.Text.Digit

/-!
# Escaped encodings

Every byte is the character with its number, but a backslash begins an escape. The raw encoding
knows two of them, which write a number with four or with eight digits in base sixteen; the other
one knows those of string literals too. An escape that lacks digits fits nothing, up to the digit
that is wrong.

## Main definitions

* `rawEscapedFront`, `escapedFront`: what stands in front of bytes.
-/

namespace ClientScribe.Source

/-- The character of a byte as its number. -/
def sameChar (b : UInt8) : CodePoint := .char (Char.ofNat b.toNat)

/-- The value of a byte that is a digit in base sixteen. -/
def hexByte? (b : UInt8) : Option Nat := Text.hexValue? (Char.ofNat b.toNat)

/-- What an escape writes whose number has so many digits, behind two bytes. -/
def numberFront (count : Nat) (bytes : List UInt8) : Front Unit :=
  let digits := (bytes.take count).map hexByte?
  let good := digits.takeWhile Option.isSome
  let number := (good.filterMap id).foldl (fun n d => 16 * n + d) 0
  if good.length < count then .misfit (2 + good.length)
  else if number < 0x110000 then .text [.ofNat number] (2 + count) ()
  else .misfit (2 + count)

/-- The front of bytes in the raw encoding. -/
def rawEscapedFront : List UInt8 → Front Unit
  | 0x5C :: 0x75 :: rest => numberFront 4 rest
  | 0x5C :: 0x55 :: rest => numberFront 8 rest
  | 0x5C :: b :: _ => .text [.char '\\', sameChar b] 2 ()
  | b :: _ => .text [sameChar b] 1 ()
  | [] => .cut

/-- The character that a letter behind a backslash writes. -/
def letterEscape? (c : Char) : Option Nat :=
  match c with
  | '\\' | '\'' | '"' => some c.toNat
  | 'a' => some 7
  | 'b' => some 8
  | 't' => some 9
  | 'n' => some 10
  | 'v' => some 11
  | 'f' => some 12
  | 'r' => some 13
  | _ => none

/-- The value of a byte that is a digit in base eight. -/
def octalByte? (b : UInt8) : Option Nat :=
  if 0x30 ≤ b && b ≤ 0x37 then some (b.toNat - 0x30) else none

/-- What an escape writes that is a number of up to three digits in base eight. -/
def octalFront (bytes : List UInt8) : Front Unit :=
  let digits := ((bytes.take 3).map octalByte?).takeWhile Option.isSome
  .text [.ofNat ((digits.filterMap id).foldl (fun n d => 8 * n + d) 0)] (1 + digits.length) ()

/-- What a name in braces behind a backslash writes: names of characters are not known. -/
def namedFront (bytes : List UInt8) : Front Unit :=
  match bytes with
  | 0x7B :: rest =>
    let name := rest.takeWhile (· != 0x7D)
    if name.length == rest.length then .misfit (3 + name.length)
    else .misfit (if name.isEmpty then 3 else 4 + name.length)
  | _ => .misfit 2

/-- The front of bytes in the encoding of string literals. A line end behind a backslash is dropped,
and a backslash in front of anything else stands for itself. -/
def escapedFront : List UInt8 → Front Unit
  | 0x5C :: 0x75 :: rest => numberFront 4 rest
  | 0x5C :: 0x55 :: rest => numberFront 8 rest
  | 0x5C :: 0x78 :: rest => numberFront 2 rest
  | 0x5C :: 0x4E :: rest => namedFront rest
  | 0x5C :: 0x0A :: _ => .text [] 2 ()
  | 0x5C :: b :: rest =>
    match letterEscape? (Char.ofNat b.toNat) with
    | some n => .text [.ofNat n] 2 ()
    | none =>
      if (octalByte? b).isSome then octalFront (b :: rest)
      else .text [.char '\\', sameChar b] 2 ()
  | [0x5C] => .misfit 1
  | b :: _ => .text [sameChar b] 1 ()
  | [] => .cut

end ClientScribe.Source
