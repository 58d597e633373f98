import ClientScribe.Decimal.Reading
import ClientScribe.Error
import ClientScribe.Yaml.Scalar.Base64
import ClientScribe.Yaml.Scalar.Timestamp
import ClientScribe.Yaml.Tag

/-!
# The values of scalars

The text of a scalar read as its tag says. Plain scalars have the tag that fits them; a written tag
may ask for more than the text gives.
-/

namespace ClientScribe.Yaml.Scalar

open Document (ReadFault Value)

/-- The value, or the fault of a text that names nothing. -/
def existing {α : Type} : Option α → Except ReadFault α
  | some a => .ok a
  | none => .error .impossible

/-- The parts of a text between colons. -/
def colonParts : List Char → List (List Char)
  | [] => [[]]
  | c :: rest =>
    if c == ':' then [] :: colonParts rest
    else match colonParts rest with
      | part :: more => (c :: part) :: more
      | [] => [[c]]

/-- The sign in front of a number text, which must not be empty. -/
def signed (s : List Char) : Except ReadFault (Bool × List Char) :=
  match s.filter (· != '_') with
  | [] => .error .impossible
  | s => .ok (Decimal.takeSign s)

/-- The unsigned whole number of a text, in the base that its start names. -/
def wholeNumber (s : List Char) : Except ReadFault Int :=
  match s with
  | ['0'] => .ok 0
  | '0' :: 'b' :: digits => existing (Decimal.integer? 2 digits)
  | '0' :: 'x' :: digits => existing (Decimal.integer? 16 digits)
  | '0' :: _ => existing (Decimal.integer? 8 s)
  | [] => .error .impossible
  | _ =>
    if s.contains ':' then do
      let parts ← (colonParts s).mapM fun part => existing (Decimal.integer? 10 part)
      return parts.foldl (fun n part => 60 * n + part) 0
    else existing (Decimal.integer? 10 s)

/-- The whole number of a text. -/
def integer (s : List Char) : Except ReadFault Value := do
  let (negative, digits) ← signed s
  let n ← wholeNumber digits
  return .int (if negative then -n else n)

/-- Whole numbers from this one on have no float near them. -/
def floatBound : Nat := Nat.pow 2 1024 - Nat.pow 2 970

/-- The sum of the parts of a number in base sixty, the ones first. The power of a part has to have
a float near it. -/
def sexagesimal (power : Nat) (sum : Float) : List Float → Except ReadFault Float
  | [] => .ok sum
  | part :: more =>
    if floatBound ≤ power then .error .impossible
    else sexagesimal (60 * power) (sum + part * Float.ofNat power) more

/-- A float as a value; one that is not a number is the value's own. -/
def floatValue (own : Nat) (x : Float) : Value :=
  if x.isNaN then .nan (some own) else .float x

/-- The float of a text. -/
def float (own : Nat) (s : List Char) : Except ReadFault Value := do
  let (negative, digits) ← signed (s.map Char.toLower)
  let withSign (x : Float) : Value := floatValue own (if negative then -x else x)
  match String.ofList digits with
  | ".inf" => return withSign (1.0 / 0.0)
  | ".nan" => return .nan none
  | _ =>
    if digits.contains ':' then
      let parts ← (colonParts digits).mapM fun part => existing (Decimal.float? part)
      return withSign (← sexagesimal 1 0.0 parts.reverse)
    else return withSign (← existing (Decimal.float? digits))

/-- The truth value of a text. -/
def bool (s : List Char) : Except ReadFault Value :=
  match String.ofList (s.map Char.toLower) with
  | "yes" | "true" | "on" => .ok (.bool true)
  | "no" | "false" | "off" => .ok (.bool false)
  | _ => .error .impossible

/-- The bytes of a text in base 64. -/
def binary (s : List Char) : Except ReadFault Value :=
  match if s.all (·.toNat < 128) then Base64.bytes? s else none with
  | some bytes => .ok (.bytes bytes)
  | none => .error .malformed

/-- The day or the moment of a text. -/
def timestamp (s : List Char) : Except ReadFault Value :=
  existing ((Timestamp.read? (Timestamp.withoutFinalBreak s)).bind Timestamp.value?)

/-- The value of a text without a half of a pair under a tag. What is not a number gets the number
`own`, unless it is written by the word for it. -/
def ofChars (tag : Tag) (own : Nat) (s : List Char) : Except ReadFault Value :=
  match tag with
  | .null => .ok .null
  | .bool => bool s
  | .int => integer s
  | .float => float own s
  | .binary => binary s
  | .timestamp => timestamp s
  | .str => .ok (.str (Text.ofChars s))
  | _ => .error .malformed

/-- The value of a text with a half of a pair under a tag. -/
def withHalves (tag : Tag) (s : Text) : Except ReadFault Value :=
  match tag with
  | .null => .ok .null
  | .bool | .int | .float | .timestamp => .error .impossible
  | .str => .ok (.str s)
  | _ => .error .malformed

/-- The value of a scalar under a tag that is for scalars. -/
def value (tag : Tag) (own : Nat) (s : Text) : Except ReadFault Value :=
  match s.chars? with
  | some chars => ofChars tag own chars
  | none => withHalves tag s

end ClientScribe.Yaml.Scalar
