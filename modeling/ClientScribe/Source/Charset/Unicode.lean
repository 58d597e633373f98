/-!
# Unicode encodings of bytes

Reading bytes as UTF-8, UTF-16 or UTF-32 never fails on a character: what does not fit is read as
the replacement character, once for every piece that a reader gives up on. Only the order of the
bytes can be unknown, when nothing but the mark in front would tell it.

## Main definitions

* `utf8From`: bytes in UTF-8, from the middle of a character or from its start.
* `utf16From`, `utf32From`: units of two and of four bytes.
* `marked?`: the bytes behind a mark, and the order that it tells.
-/

namespace ClientScribe.Source

/-- The character that stands for bytes that do not fit. -/
def replacement : Char := Char.ofNat 0xFFFD

/-- The mark that may stand in front of a text. -/
def mark : Char := Char.ofNat 0xFEFF

/-- How many bytes follow the first byte of a character, and the range of the first of them. -/
def utf8Shape (b : Nat) : Option (Nat × Nat × Nat) :=
  if 0xC2 ≤ b && b ≤ 0xDF then some (1, 0x80, 0xBF)
  else if b == 0xE0 then some (2, 0xA0, 0xBF)
  else if b == 0xED then some (2, 0x80, 0x9F)
  else if 0xE1 ≤ b && b ≤ 0xEF then some (2, 0x80, 0xBF)
  else if b == 0xF0 then some (3, 0x90, 0xBF)
  else if 0xF1 ≤ b && b ≤ 0xF3 then some (3, 0x80, 0xBF)
  else if b == 0xF4 then some (3, 0x80, 0x8F)
  else none

/-- The bits of the first byte of a character that has so many bytes behind it. -/
def leadBits (b following : Nat) : Nat :=
  if following == 1 then b % 32 else if following == 2 then b % 16 else b % 8

/-- Reads bytes as UTF-8. In the middle of a character the bits so far are given, the number of
bytes to come, and the range of the next one. -/
def utf8From (pending : Option (Nat × Nat × Nat × Nat)) : List UInt8 → List Char
  | [] => if pending.isSome then [replacement] else []
  | b :: rest =>
    let n := b.toNat
    let fits : Option (Nat × Nat) :=
      match pending with
      | some (bits, missing, low, high) =>
        if low ≤ n && n ≤ high then some (bits * 64 + n % 64, missing) else none
      | none => none
    match fits with
    | some (bits, missing) =>
      if missing ≤ 1 then Char.ofNat bits :: utf8From none rest
      else utf8From (some (bits, missing - 1, 0x80, 0xBF)) rest
    | none =>
      let cut := if pending.isSome then [replacement] else []
      if n < 0x80 then cut ++ Char.ofNat n :: utf8From none rest
      else match utf8Shape n with
        | some (following, low, high) =>
          cut ++ utf8From (some (leadBits n following, following, low, high)) rest
        | none => cut ++ replacement :: utf8From none rest

/-- Whether the most or the least significant byte of a unit comes first. -/
inductive ByteOrder where
  | big
  | little
  deriving DecidableEq

/-- The number that bytes in an order write. -/
def ByteOrder.number (o : ByteOrder) (bytes : List UInt8) : Nat :=
  let most := match o with
    | big => bytes
    | little => bytes.reverse
  most.foldl (fun n b => n * 256 + b.toNat) 0

/-- The units that pairs of bytes write; a byte that stands alone is half of a pair that does not
fit. -/
def units16 (o : ByteOrder) : List UInt8 → List Nat
  | a :: b :: rest => o.number [a, b] :: units16 o rest
  | [_] => [0xD800]
  | [] => []

/-- Reads UTF-16 units; a unit of a pair that stands alone does not fit. The first unit of a pair
is given behind it. -/
def utf16From (high : Option Nat) : List Nat → List Char
  | [] => if high.isSome then [replacement] else []
  | n :: rest =>
    let cut := if high.isSome then [replacement] else []
    if 0xDC00 ≤ n && n < 0xE000 then
      match high with
      | some h => Char.ofNat (0x10000 + (h - 0xD800) * 0x400 + (n - 0xDC00)) :: utf16From none rest
      | none => replacement :: utf16From none rest
    else if 0xD800 ≤ n && n < 0xDC00 then cut ++ utf16From (some n) rest
    else cut ++ Char.ofNat n :: utf16From none rest

/-- The character with a number, if there is one. -/
def charOr (n : Nat) : Char :=
  if n.isValidChar then Char.ofNat n else replacement

/-- Reads bytes as UTF-32; fewer than four bytes at the end do not fit. -/
def utf32From (o : ByteOrder) : List UInt8 → List Char
  | a :: b :: c :: d :: rest => charOr (o.number [a, b, c, d]) :: utf32From o rest
  | [] => []
  | _ => [replacement]

/-- The order of the bytes of a text and what stands behind its mark, if the bytes in front are the
mark in units of so many bytes. -/
def marked? (width : Nat) (bytes : List UInt8) : Option (ByteOrder × List UInt8) :=
  let front := bytes.take width
  if front.length < width then none
  else if ByteOrder.little.number front == mark.toNat then some (.little, bytes.drop width)
  else if ByteOrder.big.number front == mark.toNat then some (.big, bytes.drop width)
  else none

end ClientScribe.Source
