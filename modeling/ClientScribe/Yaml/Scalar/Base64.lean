/-!
# Bytes written in base 64

Four characters write three bytes; padding ends the text. Characters outside the alphabet are passed
over.
-/

namespace ClientScribe.Yaml.Base64

/-- The six bits of a character of the alphabet. -/
def bits? (c : Char) : Option Nat :=
  if c.isUpper then some (c.toNat - 65)
  else if c.isLower then some (c.toNat - 71)
  else if c.isDigit then some (c.toNat + 4)
  else if c == '+' then some 62
  else if c == '/' then some 63
  else none

/-- The bytes of the rest of a text, behind `position` characters of a group whose bits beyond full
bytes are given, and behind so many pads. -/
def bytesFrom (position pads bits : Nat) : List Char → Option (List UInt8)
  | [] => if position == 0 then some [] else none
  | c :: rest =>
    if c == '=' then
      if 2 ≤ position && 4 ≤ position + (pads + 1) then some []
      else bytesFrom position (if 2 ≤ position then pads + 1 else pads) bits rest
    else match bits? c with
      | none => bytesFrom position pads bits rest
      | some n =>
        match position with
        | 0 => bytesFrom 1 0 n rest
        | 1 => (bytesFrom 2 0 (n % 16) rest).map ((bits * 4 + n / 16).toUInt8 :: ·)
        | 2 => (bytesFrom 3 0 (n % 4) rest).map ((bits * 16 + n / 4).toUInt8 :: ·)
        | _ => (bytesFrom 0 0 0 rest).map ((bits * 64 + n).toUInt8 :: ·)

/-- The bytes that a text writes, if its groups are complete. -/
def bytes? (s : List Char) : Option (List UInt8) :=
  bytesFrom 0 0 0 s

end ClientScribe.Yaml.Base64
