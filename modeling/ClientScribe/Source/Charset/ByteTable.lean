import ClientScribe.Source.Charset.Unicode
import ClientScribe.Text.Digit

/-!
# Encodings of one byte

In an encoding of one byte every byte stands for a character or for none. Nearly all of them agree
on the first bytes, which stand for the characters with their numbers; a table has the characters of
the others.
-/

namespace ClientScribe.Source

/-- The characters of the last bytes of an encoding, up to byte 255, in rows: their numbers with
four hexadecimal digits each. -/
structure ByteTable where
  rows : List String

namespace ByteTable

/-- The characters whose numbers digits write. -/
def charsOf : List Char → List Char
  | a :: b :: c :: d :: rest =>
    ((Text.hexNumber? [a, b, c, d]).map Char.ofNat).getD replacement :: charsOf rest
  | _ => []

/-- The characters of the table. -/
def chars (t : ByteTable) : Array Char := (t.rows.flatMap fun row => charsOf row.toList).toArray

/-- The character of a byte, given the characters of the last ones. -/
def charOf (last : Array Char) (b : UInt8) : Char :=
  let first := 256 - last.size
  if b.toNat < first then Char.ofNat b.toNat else last.getD (b.toNat - first) replacement

/-- Reads bytes by the table. -/
def decode (t : ByteTable) (bytes : List UInt8) : List Char :=
  bytes.map (charOf t.chars)

end ByteTable

end ClientScribe.Source
