import ClientScribe.Document.Text
import ClientScribe.Text.Digit

/-!
# Printing values as literals

A value is printed over several lines, two spaces for every level. A text stands between quotes with
everything outside ASCII escaped by its UTF-16 units, so the literal can be read under any encoding.
Dates, moments, bytes, sets and values that contain themselves have no literal.
-/

namespace ClientScribe.Json

open Document (Value misfit)

/-- The escape of one UTF-16 unit. -/
def unitEscape (n : Nat) : List Char :=
  '\\' :: 'u' :: Text.hexDigits 4 n

/-- One character inside a literal. -/
def literalChar (c : Char) : List Char :=
  let n := c.toNat
  if c == '"' then ['\\', '"']
  else if c == '\\' then ['\\', '\\']
  else if c == '\n' then ['\\', 'n']
  else if c == '\r' then ['\\', 'r']
  else if c == '\t' then ['\\', 't']
  else if n == 8 then ['\\', 'b']
  else if n == 12 then ['\\', 'f']
  else if 32 ≤ n && n < 127 then [c]
  else if n < 0x10000 then unitEscape n
  else unitEscape (0xD800 + (n - 0x10000) / 0x400) ++ unitEscape (0xDC00 + (n - 0x10000) % 0x400)

/-- One code point inside a literal. -/
def literalPoint : CodePoint → List Char
  | .char c => literalChar c
  | .half n => unitEscape (CodePoint.half n).toNat

/-- A text between double quotes. -/
def literalText (s : Text) : List Char :=
  '"' :: (s.flatMap literalPoint ++ ['"'])

/-- A value without parts as it is printed. -/
def scalarText : Value → Result Text
  | .null => .ok "null"
  | .bool b => .ok (if b then "true" else "false")
  | .int n => Document.needed (Document.intText n)
  | .float x => .ok (Decimal.floatText Decimal.literal x)
  | .nan _ => .ok Decimal.literal.notANumber
  | .str s => .ok (Text.ofChars (literalText s))
  | _ => misfit

/-- A key as it is printed: a text as it is, any other value by its literal in quotes. -/
def keyText : Value → Result Text
  | .str s => .ok (Text.ofChars (literalText s))
  | k => (scalarText k).map fun s => Text.ofChars (literalText s)

/-- The start of a line on a level. -/
def lineStart (level : Nat) : Text :=
  .char '\n' :: List.replicate (2 * level) (.char ' ')

/-- Parts of a collection, each on its own line, between brackets. -/
def bracketed (level : Nat) (opening closing : Text) (parts : List Text) : Text :=
  if parts.isEmpty then opening ++ closing
  else
    opening ++ lineStart (level + 1) ++
      Text.intercalate ("," ++ lineStart (level + 1)) parts ++ lineStart level ++ closing

mutual

/-- The literal of a value whose closing bracket stands on a level. -/
def print (level : Nat) : Value → Result Text
  | .list elements => do
    return bracketed level "[" "]" (← printElements (level + 1) elements)
  | .tuple parts => do
    return bracketed level "[" "]" (← printElements (level + 1) parts)
  | .map entries => do
    return bracketed level "\x7b" "\x7d" (← printEntries (level + 1) entries)
  | v => scalarText v

/-- The literals of the elements of a list. -/
def printElements (level : Nat) : List Value → Result (List Text)
  | [] => .ok []
  | v :: rest => do
    let text ← print level v
    return text :: (← printElements level rest)

/-- The keys and literals of the entries of a mapping. -/
def printEntries (level : Nat) : List (Value × Value) → Result (List Text)
  | [] => .ok []
  | (k, v) :: rest => do
    let key ← keyText k
    let text ← print level v
    return (key ++ ": " ++ text) :: (← printEntries level rest)

end

end ClientScribe.Json
