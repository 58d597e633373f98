import ClientScribe.Text.Blank
import ClientScribe.Text.Digit

/-!
# Reading numbers

Whole numbers and floats from their texts. A number that stands alone in a text may have blanks
around it, a sign, and single underscores between its digits; its digits may be of any script.
-/

namespace ClientScribe.Decimal

/-- The float nearest to `digits · 10 ^ exponent`. Numbers far outside the range of floats are
decided by their size, without computing the power. -/
def toFloat (digits : Nat) (exponent : Int) : Float :=
  if digits == 0 then 0.0
  else
    let size := Int.ofNat (Nat.toDigits 10 digits).length + exponent
    if 310 < size then 1.0 / 0.0
    else if size < -400 then 0.0
    else Float.ofScientific digits (exponent < 0) exponent.natAbs

/-- The most digits that a number read from a text in base ten may have. -/
def mostDigits : Nat := 4300

/-- The number that ASCII digits write. -/
def ofDigits (s : List Char) : Nat :=
  s.foldl (fun n c => 10 * n + (c.toNat - 48)) 0

/-- White space as number texts may have it around them. -/
def isSpace (c : Char) : Bool :=
  (9 ≤ c.toNat && c.toNat ≤ 13) || c == ' '

/-- A number text in ASCII: blanks become spaces and decimal digits of any script the ASCII ones.
A text that is ASCII already stays as it is. -/
def inAscii? (s : List Char) : Option (List Char) :=
  if s.all (·.toNat < 128) then some s
  else s.mapM fun c =>
    if c.toNat < 127 then some c
    else if Text.isBlank c then some ' '
    else (Text.decimalDigit? c).map (Text.hexDigit ·)

/-- The text without white space at both ends. -/
def trimSpace (s : List Char) : List Char :=
  ((s.dropWhile isSpace).reverse.dropWhile isSpace).reverse

/-- A sign in front of a text, and whether it is a minus. -/
def takeSign : List Char → Bool × List Char
  | '-' :: rest => (true, rest)
  | '+' :: rest => (false, rest)
  | s => (false, s)

/-- The number and the count of digits of a base, read behind other digits. -/
def moreDigits? (base : Nat) : Nat → Nat → List Char → Option (Nat × Nat)
  | n, count, [] => some (n, count)
  | n, count, c :: rest =>
    match c == '_', rest with
    | true, d :: rest => (digit? d).bind fun v => moreDigits? base (base * n + v) (count + 1) rest
    | true, [] => none
    | false, rest => (digit? c).bind fun v => moreDigits? base (base * n + v) (count + 1) rest
where
  /-- A digit of the base. -/
  digit? (c : Char) : Option Nat := (Text.hexValue? c).filter (· < base)

/-- The number that digits of a base write, with single underscores between them. -/
def digitsIn? (base : Nat) (s : List Char) : Option Nat :=
  match s with
  | [] => none
  | '_' :: _ => none
  | s => (moreDigits? base 0 0 s).bind fun (n, count) =>
    if base == 10 && mostDigits < count then none else some n

/-- The mark that may stand between a leading zero and the digits of a base. -/
def baseMark (base : Nat) (c : Char) : Bool :=
  (base == 16 && (c == 'x' || c == 'X')) || (base == 8 && (c == 'o' || c == 'O')) ||
    (base == 2 && (c == 'b' || c == 'B'))

/-- The digits of a number without the mark of its base. -/
def withoutMark (base : Nat) : List Char → List Char
  | '0' :: mark :: rest =>
    if baseMark base mark then
      match rest with
      | '_' :: rest => rest
      | rest => rest
    else '0' :: mark :: rest
  | s => s

/-- The whole number that a text writes in a base. -/
def integer? (base : Nat) (s : List Char) : Option Int :=
  (inAscii? s).bind fun s =>
    let (negative, s) := takeSign (trimSpace s)
    (digitsIn? base (withoutMark base s)).map fun n =>
      if negative then -Int.ofNat n else Int.ofNat n

/-- The parts of an unsigned decimal text: its digits as one number and the power of ten. -/
def decimalParts? (s : List Char) : Option (Nat × Int) :=
  let whole := s.takeWhile Char.isDigit
  let rest := s.dropWhile Char.isDigit
  let (fraction, rest) :=
    match rest with
    | '.' :: rest => (rest.takeWhile Char.isDigit, rest.dropWhile Char.isDigit)
    | rest => ([], rest)
  if whole.isEmpty && fraction.isEmpty then none
  else
    let digits := ofDigits (whole ++ fraction)
    let shift := Int.ofNat fraction.length
    match rest with
    | [] => some (digits, -shift)
    | e :: rest =>
      if e == 'e' || e == 'E' then
        let (negative, rest) := takeSign rest
        if rest.isEmpty || !rest.all Char.isDigit then none
        else
          let power := Int.ofNat (ofDigits rest)
          some (digits, (if negative then -power else power) - shift)
      else none

/-- The float that a text writes: a decimal, or a word for infinity or for not a number. -/
def float? (s : List Char) : Option Float :=
  (inAscii? s).bind fun s =>
    let (negative, s) := takeSign (trimSpace s)
    let unsigned : Option Float :=
      match String.ofList (s.map Char.toLower) with
      | "inf" => some (1.0 / 0.0)
      | "infinity" => some (1.0 / 0.0)
      | "nan" => some (0.0 / 0.0)
      | _ => (decimalParts? s).map fun (digits, exponent) => toFloat digits exponent
    unsigned.map fun x => if negative then -x else x

end ClientScribe.Decimal
