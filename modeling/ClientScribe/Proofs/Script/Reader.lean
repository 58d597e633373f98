import ClientScribe.Document.Value
import ClientScribe.Json.Reader
import ClientScribe.Proofs.Decimal.Text
import Mathlib.Data.List.Forall2

/-!
# Reading Literals Of The Client's Language

The client's language reads a text between single quotes with its escapes, and it counts a text in
UTF-16 units. Numbers, words, arrays and objects are written as in JSON. A literal is read into what
it says (`Datum`): a number is the decimal that is written, a text the row of its units, an object
its fields in order.

An object whose keys repeat, or that has the key `__proto__`, is not read: its fields are not what
is written. Of the escapes, those of the null character, of line ends and of code points in braces
are left out; so are double quotes, keys without quotes, and comments.

## Main definitions

* `read`: what a literal says;
* `Denotes`: whether this is a given value.
-/

namespace ClientScribe

/-- The UTF-16 units of a code point. -/
def CodePoint.units : CodePoint → List Nat
  | .char c =>
    let n := c.toNat
    if n < 0x10000 then [n]
    else [0xD800 + (n - 0x10000) / 0x400, 0xDC00 + (n - 0x10000) % 0x400]
  | .half n => [(CodePoint.half n).toNat]

/-- The UTF-16 units of a text. -/
def Text.units (s : Text) : List Nat := s.flatMap CodePoint.units

namespace Script

open Decimal (Scaled)
open Document (Value Entries)

/-- What a literal says. -/
inductive Datum where
  | null
  | bool (b : Bool)
  | number (negative : Bool) (amount : Scaled)
  | string (units : List Nat)
  | array (elements : List Datum)
  | object (fields : List (List Nat × Datum))

/-! ### Texts -/

/-- Where the reader stands between quotes. -/
inductive QuoteState where
  | plain
  | escape
  /-- So many hexadecimal digits are still to come, behind digits of a value. -/
  | unit (missing value : Nat)

/-- Units in front of what is read behind them. -/
def behind (units : List Nat) (more : Option (List Nat × Text)) : Option (List Nat × Text) :=
  more.map fun r => (units ++ r.1, r.2)

/-- The units that an escape of one code point writes: most stand for themselves. -/
def escapedUnits : CodePoint → List Nat
  | .char 'b' => [8]
  | .char 't' => [9]
  | .char 'n' => [10]
  | .char 'v' => [11]
  | .char 'f' => [12]
  | .char 'r' => [13]
  | c => c.units

/-- Whether a code point ends a line. -/
def endsLine (c : CodePoint) : Bool :=
  c == .char '\n' || c == .char '\r'

/-- Reads up to the closing quote: the units in front of it and the text behind it. -/
def quotedUnits (state : QuoteState) : Text → Option (List Nat × Text)
  | [] => none
  | c :: rest =>
    match state with
    | .plain =>
      if c == .char '\'' then some ([], rest)
      else if c == .char '\\' then quotedUnits .escape rest
      else if endsLine c then none
      else behind c.units (quotedUnits .plain rest)
    | .escape =>
      if c == .char 'u' then quotedUnits (.unit 4 0) rest
      else if c == .char 'x' then quotedUnits (.unit 2 0) rest
      else if c.satisfies Char.isDigit || endsLine c then none
      else behind (escapedUnits c) (quotedUnits .plain rest)
    | .unit missing value =>
      match c.char?.bind Text.hexValue? with
      | none => none
      | some d =>
        if missing ≤ 1 then behind [16 * value + d] (quotedUnits .plain rest)
        else quotedUnits (.unit (missing - 1) (16 * value + d)) rest

/-! ### Numbers and words -/

/-- Whether there is a minus in front, and what stands behind it. -/
def takeMinus : List Char → Bool × List Char
  | '-' :: rest => (true, rest)
  | s => (false, s)

/-- Reads the number at the start of a text: a decimal, perhaps behind a minus. -/
def number (s : Text) : Option (Datum × Text) :=
  let front := (s.takeWhile (·.satisfies Json.isNumberChar)).filterMap CodePoint.char?
  let (negative, decimal) := takeMinus front
  match Decimal.decimalOf decimal with
  | some (amount, []) => some (.number negative amount, s.drop front.length)
  | _ => none

/-- The words that stand for a value. -/
def words : List (Text × Datum) :=
  [("null", .null), ("true", .bool true), ("false", .bool false)]

/-- Reads a word or a number. -/
def scalar (s : Text) : Option (Datum × Text) :=
  match words.find? fun w => w.1.isPrefixOf s with
  | some (word, d) => some (d, s.drop word.length)
  | none => number s

/-! ### Arrays and objects -/

/-- Reads what stands behind a part of a row: whether there is a comma in place of the closing
bracket, and the text behind either. -/
def behindPart (closing : Char) (s : Text) : Option (Bool × Text) :=
  match Json.skipSpace s with
  | .char c :: rest =>
    if c == closing then some (false, rest)
    else if c == ',' then some (true, Json.skipSpace rest)
    else none
  | _ => none

/-- Reads parts of one kind up to the closing bracket; a comma may stand behind the last one. -/
def row {α : Type} (part : Text → Option (α × Text)) (closing : Char) :
    Nat → Text → Option (List α × Text)
  | 0, _ => none
  | fuel + 1, s =>
    if s.head? = some (.char closing) then some ([], s.tail)
    else do
      let (a, rest) ← part s
      let (goesOn, rest) ← behindPart closing rest
      if goesOn then
        let (more, rest) ← row part closing fuel rest
        return (a :: more, rest)
      else return ([a], rest)

/-- Reads a key and the colon behind it. -/
def key : Text → Option (List Nat × Text)
  | .char '\'' :: rest => do
    let (units, rest) ← quotedUnits .plain rest
    match Json.skipSpace rest with
    | .char ':' :: rest => return (units, Json.skipSpace rest)
    | _ => none
  | _ => none

/-- Reads a key and its value. -/
def field (value : Text → Option (Datum × Text)) (s : Text) :
    Option ((List Nat × Datum) × Text) := do
  let (units, rest) ← key s
  let (d, rest) ← value rest
  return ((units, d), rest)

/-- Whether an object has exactly the fields that are written: no key repeats, and none leads to the
object's prototype. -/
def areOwn (keys : List (List Nat)) : Bool :=
  decide keys.Nodup && !keys.contains (Text.units "__proto__")

/-- Reads the literal at the start of a text. The fuel bounds how deeply it is nested and how many
parts it has on a level. -/
def value : Nat → Text → Option (Datum × Text)
  | 0, _ => none
  | fuel + 1, s =>
    match s with
    | .char '\'' :: rest => do
      let (units, rest) ← quotedUnits .plain rest
      return (.string units, rest)
    | .char '[' :: rest => do
      let (ds, rest) ← row (value fuel) ']' fuel (Json.skipSpace rest)
      return (.array ds, rest)
    | .char '\x7b' :: rest => do
      let (fs, rest) ← row (field (value fuel)) '\x7d' fuel (Json.skipSpace rest)
      if areOwn (fs.map (·.1)) then return (.object fs, rest) else none
    | s => scalar s

/-- What a text says that is one literal. -/
def read (s : Text) : Option Datum := do
  let (d, rest) ← value (s.length + 1) (Json.skipSpace s)
  if (Json.skipSpace rest).isEmpty then return d else none

/-! ### Values -/

/-- The number that a sign and a decimal write. -/
def signed (negative : Bool) (amount : Scaled) : ℚ :=
  if negative then -amount.value else amount.value

mutual

/-- What a literal says is a value: with the same numbers and the same texts, unit by unit. A float
is written by any decimal that is read as this float. -/
inductive Denotes : Value → Datum → Prop
  | null : Denotes .null .null
  | bool (b : Bool) : Denotes (.bool b) (.bool b)
  | int {n : Int} {negative : Bool} {amount : Scaled} (h : signed negative amount = n) :
      Denotes (.int n) (.number negative amount)
  | float {x : Float} {negative : Bool} {significand : Nat} {exponent : Int} {amount : Scaled}
      (hx : Decimal.Binary.ofFloat x = .finite negative significand exponent)
      (h : Decimal.IsReadAs significand exponent amount.value) :
      Denotes (.float x) (.number negative amount)
  | str (s : Text) : Denotes (.str s) (.string s.units)
  | list {vs : List Value} {ds : List Datum} (h : List.Forall₂ Denotes vs ds) :
      Denotes (.list vs) (.array ds)
  | map {es : Entries} {fs : List (List Nat × Datum)} (h : DenoteFields es fs) :
      Denotes (.map es) (.object fs)

/-- The entries of a mapping and what an object says, one by one. -/
inductive DenoteFields : Entries → List (List Nat × Datum) → Prop
  | nil : DenoteFields [] []
  | cons {k : Text} {v : Value} {d : Datum} {es : Entries} {fs : List (List Nat × Datum)}
      (head : Denotes v d) (tail : DenoteFields es fs) :
      DenoteFields ((.str k, v) :: es) ((k.units, d) :: fs)

end

end Script

end ClientScribe
