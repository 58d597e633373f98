import ClientScribe.Error
import ClientScribe.Text.Basic
import ClientScribe.Text.Digit

/-!
# String literals of JSON documents

The text between double quotes, read code point by code point. An escape `\u` writes one UTF-16
unit; two units that form a pair are one character, and a unit of a pair that stands alone is kept
as the half that it is.
-/

namespace ClientScribe.Json

open Document (ReadFault)

/-- Where the reader stands inside a literal. Every state keeps the first unit of a pair that has
just been read, if there is one. -/
inductive LiteralState where
  | plain (high : Option Nat)
  | escape (high : Option Nat)
  /-- So many hexadecimal digits are still to come, behind digits of a value. -/
  | unit (high : Option Nat) (missing value : Nat)

/-- A first unit of a pair that stayed alone, in front of what was read before it. -/
def settle (high : Option Nat) (read : Text) : Text :=
  match high with
  | some h => .ofNat h :: read
  | none => read

/-- The state and the code points after one more UTF-16 unit. -/
def addUnit (high : Option Nat) (n : Nat) (read : Text) : LiteralState × Text :=
  if 0xDC00 ≤ n && n < 0xE000 then
    match high with
    | some h => (.plain none, .ofNat (0x10000 + (h - 0xD800) * 0x400 + (n - 0xDC00)) :: read)
    | none => (.plain none, .ofNat n :: read)
  else if 0xD800 ≤ n && n < 0xDC00 then (.plain (some n), settle high read)
  else (.plain none, .ofNat n :: settle high read)

/-- The character that a one-letter escape writes. -/
def escapedChar? : Char → Option Char
  | '"' => some '"'
  | '\\' => some '\\'
  | '/' => some '/'
  | 'b' => some '\x08'
  | 'f' => some '\x0c'
  | 'n' => some '\n'
  | 'r' => some '\r'
  | 't' => some '\t'
  | _ => none

/-- Reads a literal up to its closing quote: its text and the text behind it. What has been read so
far is kept last first. -/
def literalFrom (state : LiteralState) (read : Text) : Text → Except ReadFault (Text × Text)
  | [] => .error .malformed
  | c :: rest =>
    match state with
    | .plain high =>
      if c == .char '"' then .ok ((settle high read).reverse, rest)
      else if c == .char '\\' then literalFrom (.escape high) read rest
      else if c.toNat < 32 then .error .malformed
      else literalFrom (.plain none) (c :: settle high read) rest
    | .escape high =>
      if c == .char 'u' then literalFrom (.unit high 4 0) read rest
      else match c.char?.bind escapedChar? with
        | some d => literalFrom (.plain none) (.char d :: settle high read) rest
        | none => .error .malformed
    | .unit high missing value =>
      match c.char?.bind Text.hexValue? with
      | none => .error .malformed
      | some d =>
        if missing ≤ 1 then
          let (state, read) := addUnit high (16 * value + d) read
          literalFrom state read rest
        else literalFrom (.unit high (missing - 1) (16 * value + d)) read rest

/-- Reads the rest of a literal whose opening quote has been read. -/
def literal (s : Text) : Except ReadFault (Text × Text) :=
  literalFrom (.plain none) [] s

end ClientScribe.Json
