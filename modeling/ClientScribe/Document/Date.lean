import ClientScribe.Decimal.Text

/-!
# Dates and moments

A document may hold dates and moments of time. A moment has a time of day to the microsecond and, if
its zone is known, the zone's offset in seconds.
-/

namespace ClientScribe.Document

/-- A day of the calendar. -/
structure Date where
  year : Nat
  month : Nat
  day : Nat
  deriving DecidableEq

/-- A day with a time of day. -/
structure Moment where
  date : Date
  hour : Nat
  minute : Nat
  second : Nat
  microsecond : Nat
  /-- The zone's offset in seconds, if there is a zone. -/
  offset : Option Int
  deriving DecidableEq

/-- Whether the year has a twenty-ninth of February. -/
def isLeapYear (year : Nat) : Bool :=
  year % 4 == 0 && (year % 100 != 0 || year % 400 == 0)

/-- The number of days of a month. -/
def daysIn (year month : Nat) : Nat :=
  if month == 2 then (if isLeapYear year then 29 else 28)
  else if month == 4 || month == 6 || month == 9 || month == 11 then 30
  else 31

/-- Whether the date is a day of the calendar from year 1 to year 9999. -/
def Date.exists (d : Date) : Bool :=
  1 ≤ d.year && d.year ≤ 9999 && 1 ≤ d.month && d.month ≤ 12 && 1 ≤ d.day &&
    d.day ≤ daysIn d.year d.month

/-- Whether the moment has a day, a time of day, and an offset of less than a day. -/
def Moment.exists (m : Moment) : Bool :=
  m.date.exists && m.hour < 24 && m.minute < 60 && m.second < 60 &&
    match m.offset with
    | none => true
    | some offset => offset.natAbs < 86400

/-- The number of days of the years before one. -/
def daysBeforeYear (year : Nat) : Nat :=
  let y := year - 1
  365 * y + y / 4 - y / 100 + y / 400

/-- The number of a day, counted from the first day of the first year. -/
def Date.number (d : Date) : Nat :=
  let before := daysBeforeYear d.year
  (List.range (d.month - 1)).foldl (fun days m => days + daysIn d.year (m + 1)) before + d.day

/-- The microseconds that a clock shows since the first day of the first year. -/
def Moment.clock (m : Moment) : Nat :=
  (((m.date.number * 24 + m.hour) * 60 + m.minute) * 60 + m.second) * 1000000 + m.microsecond

/-- Whether two moments are the same: with zones, the same point in time; without, the same time on
the clock. -/
def Moment.same (m n : Moment) : Bool :=
  match m.offset, n.offset with
  | some a, some b =>
    Int.ofNat m.clock - a * 1000000 == Int.ofNat n.clock - b * 1000000
  | none, none => m.clock == n.clock
  | _, _ => false

/-- A number with so many digits at least. -/
private def fixed (width n : Nat) : String :=
  String.ofList (Decimal.padded width n)

/-- Year, month and day with hyphens. -/
def Date.text (d : Date) : String :=
  fixed 4 d.year ++ "-" ++ fixed 2 d.month ++ "-" ++ fixed 2 d.day

/-- The offset of a zone in hours and minutes. -/
def offsetText (offset : Int) : String :=
  let minutes := offset.natAbs / 60
  (if offset < 0 then "-" else "+") ++ fixed 2 (minutes / 60) ++ ":" ++ fixed 2 (minutes % 60)

/-- The day, the time of day with microseconds if there are any, and the zone if there is one. -/
def Moment.text (m : Moment) : String :=
  m.date.text ++ " " ++ fixed 2 m.hour ++ ":" ++ fixed 2 m.minute ++ ":" ++ fixed 2 m.second ++
    (if m.microsecond == 0 then "" else "." ++ fixed 6 m.microsecond) ++
    (match m.offset with
      | none => ""
      | some offset => offsetText offset)

/-- The date inside the text of a collection. -/
def Date.quoted (d : Date) : String :=
  s!"datetime.date({d.year}, {d.month}, {d.day})"

/-- The zone inside the text of a collection: days and seconds, seconds not negative. -/
def offsetQuoted (offset : Int) : String :=
  if offset == 0 then "datetime.timezone.utc"
  else
    let days := offset.fdiv 86400
    let seconds := offset.fmod 86400
    let daysPart := if days == 0 then "" else s!"days={days}, "
    s!"datetime.timezone(datetime.timedelta({daysPart}seconds={seconds}))"

/-- The moment inside the text of a collection: seconds and microseconds only as far as needed. -/
def Moment.quoted (m : Moment) : String :=
  let d := m.date
  let upToMinute := s!"datetime.datetime({d.year}, {d.month}, {d.day}, {m.hour}, {m.minute}"
  let fraction :=
    if m.microsecond != 0 then s!", {m.second}, {m.microsecond}"
    else if m.second != 0 then s!", {m.second}"
    else ""
  let zone :=
    match m.offset with
    | none => ""
    | some offset => s!", tzinfo={offsetQuoted offset}"
  upToMinute ++ fraction ++ zone ++ ")"

end ClientScribe.Document
