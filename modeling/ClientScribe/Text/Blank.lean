import ClientScribe.Text.Basic

/-!
# Blank characters

A character is blank if it is white space in the character database or one of the four information
separators U+001C to U+001F. Blank characters separate words in names and are cut from the ends of
descriptions.
-/

namespace ClientScribe.Text

/-- White space, or one of the information separators. -/
def isBlank (c : Char) : Bool :=
  let n := c.toNat
  (9 ≤ n && n ≤ 13) || (28 ≤ n && n ≤ 32) || n == 0x85 || n == 0xA0 || n == 0x1680 ||
    (0x2000 ≤ n && n ≤ 0x200A) || n == 0x2028 || n == 0x2029 || n == 0x202F || n == 0x205F ||
    n == 0x3000

/-- Whether a byte is white space in ASCII. Bytes know no other blanks. -/
def isBlankByte (b : UInt8) : Bool :=
  (9 ≤ b && b ≤ 13) || b == 32

/-- What remains of a text without the blanks at its end. -/
def stripEnd (s : Text) : Text :=
  (s.reverse.dropWhile (·.satisfies isBlank)).reverse

/-- What remains of a text without the blanks at both ends. -/
def strip (s : Text) : Text :=
  stripEnd (s.dropWhile (·.satisfies isBlank))

end ClientScribe.Text
