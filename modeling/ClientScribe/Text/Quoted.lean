import ClientScribe.Text.Basic
import ClientScribe.Text.Digit
import ClientScribe.Text.Printable

/-!
# Quoted texts

How a text appears inside a message or inside the text of a list: between single quotes, or between
double quotes if it holds a single quote and no double quote. The quote in use, the backslash and
every code point without a printed shape are escaped.
-/

namespace ClientScribe.Text

/-- A code point by its number. -/
def escapedNumber (n : Nat) : List Char :=
  if n < 0x100 then '\\' :: 'x' :: hexDigits 2 n
  else if n < 0x10000 then '\\' :: 'u' :: hexDigits 4 n
  else '\\' :: 'U' :: hexDigits 8 n

/-- One character inside quotes. -/
def escaped (quote c : Char) : List Char :=
  if c == quote || c == '\\' then ['\\', c]
  else if c == '\n' then ['\\', 'n']
  else if c == '\r' then ['\\', 'r']
  else if c == '\t' then ['\\', 't']
  else if Printable.isPrintable c then [c]
  else escapedNumber c.toNat

/-- One code point inside quotes. -/
def escapedPoint (quote : Char) : CodePoint → List Char
  | .char c => escaped quote c
  | .half n => escapedNumber (CodePoint.half n).toNat

/-- The quote that a text is written between. -/
def quoteOf (s : Text) : Char :=
  if s.contains '\'' && !s.contains '"' then '"' else '\''

/-- The text between quotes. -/
def quoted (s : Text) : Text :=
  let quote := quoteOf s
  ofChars (quote :: (s.flatMap (escapedPoint quote) ++ [quote]))

/-- The text with every half written by its number. -/
def withoutHalves (s : Text) : Text :=
  s.flatMap fun
    | .char c => [.char c]
    | .half n => ofChars (escapedNumber (CodePoint.half n).toNat)

end ClientScribe.Text
