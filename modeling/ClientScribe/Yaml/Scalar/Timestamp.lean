import ClientScribe.Decimal.Reading
import ClientScribe.Document.Date
import ClientScribe.Document.Value

/-!
# Dates and moments of YAML documents

A timestamp is a day, or a day with a time of day, an optional fraction of a second and an optional
zone. Its parts are read by position first; whether they name a day of the calendar is asked after.
-/

namespace ClientScribe.Yaml.Timestamp

open Document (Date Moment Value)

/-- The text without one line end at its end. -/
def withoutFinalBreak (s : List Char) : List Char :=
  if s.getLast? == some '\n' then s.dropLast else s

/-- One or two digits, the second if there is one, and the text behind them. -/
def oneOrTwo? : List Char → Option (Nat × List Char)
  | c :: d :: rest =>
    if !c.isDigit then none
    else if d.isDigit then some (Decimal.ofDigits [c, d], rest)
    else some (Decimal.ofDigits [c], d :: rest)
  | [c] => if c.isDigit then some (Decimal.ofDigits [c], []) else none
  | [] => none

/-- Exactly two digits and the text behind them. -/
def two? : List Char → Option (Nat × List Char)
  | c :: d :: rest =>
    if c.isDigit && d.isDigit then some (Decimal.ofDigits [c, d], rest) else none
  | _ => none

/-- The text behind a mark. -/
def behind? (mark : Char) : List Char → Option (List Char)
  | c :: rest => if c == mark then some rest else none
  | [] => none

/-- A day: four digits, then one or two digits each. -/
def day? (s : List Char) : Option (Date × List Char) := do
  let year := s.take 4
  if year.length < 4 || !year.all Char.isDigit then none
  else
    let (month, rest) ← oneOrTwo? (← behind? '-' (s.drop 4))
    let (day, rest) ← oneOrTwo? (← behind? '-' rest)
    return (⟨Decimal.ofDigits year, month, day⟩, rest)

/-- The text behind the letter or the blanks between a day and its time. -/
def behindGap? : List Char → Option (List Char)
  | c :: rest =>
    if c == 'T' || c == 't' then some rest
    else if c == ' ' || c == '\t' then some (rest.dropWhile fun x => x == ' ' || x == '\t')
    else none
  | [] => none

/-- The microseconds of a fraction: six digits, missing ones zero. -/
def microseconds (digits : List Char) : Nat :=
  Decimal.ofDigits ((digits ++ List.replicate 6 '0').take 6)

/-- The offset of a zone at the end of a text; nothing, if the text ends without one. -/
def zone? (s : List Char) : Option (Option Int) :=
  match s.dropWhile fun x => x == ' ' || x == '\t' with
  | [] => if s.isEmpty then some none else none
  | ['Z'] => some (some 0)
  | sign :: rest =>
    if sign == '+' || sign == '-' then do
      let (hours, rest) ← oneOrTwo? rest
      let minutes ←
        match rest with
        | [] => some 0
        | ':' :: rest =>
          match two? rest with
          | some (minutes, []) => some minutes
          | _ => none
        | _ => none
      let seconds := Int.ofNat (3600 * hours + 60 * minutes)
      return some (if sign == '-' then -seconds else seconds)
    else none

/-- A time of day behind a day. -/
def moment? (date : Date) (s : List Char) : Option Moment := do
  let (hour, rest) ← oneOrTwo? s
  let (minute, rest) ← two? (← behind? ':' rest)
  let (second, rest) ← two? (← behind? ':' rest)
  let (fraction, rest) :=
    match rest with
    | '.' :: rest => (rest.takeWhile Char.isDigit, rest.dropWhile Char.isDigit)
    | rest => ([], rest)
  let offset ← zone? rest
  return ⟨date, hour, minute, second, microseconds fraction, offset⟩

/-- The timestamp that a text writes, whether or not it names a day of the calendar. -/
def read? (s : List Char) : Option (Date ⊕ Moment) := do
  let (date, rest) ← day? s
  if rest.isEmpty then return .inl date
  else return .inr (← moment? date (← behindGap? rest))

/-- The timestamp as a value, if the calendar has it. -/
def value? : Date ⊕ Moment → Option Value
  | .inl date => if date.exists then some (.date date) else none
  | .inr moment => if moment.exists then some (.moment moment) else none

end ClientScribe.Yaml.Timestamp
