/-! # Dates and times

A moment is a date with a time of day, to the microsecond, and perhaps an offset from universal
time.

* `Date`, `Offset`, `Moment`: the three.
* `MomentFault`: why digits are no date or time; `MomentFault.message` in words.
* `Date.check`, `Offset.check`, `Moment.check`: the date, offset or moment, or its fault.
* `Moment.isSame`: whether two moments are the same.
* `Date.text`, `Moment.text`: in digits; `Date.literal`, `Moment.literal`: inside a message.
-/

set_option autoImplicit false

namespace SpannerDdl.Yaml

/-! ## Types -/

/-- A day of the calendar. -/
structure Date where
  year : Nat
  month : Nat
  day : Nat
  deriving DecidableEq, Repr

/-- What local time is ahead of universal time, in minutes. -/
structure Offset where
  minutes : Int
  deriving DecidableEq, Repr

/-- A day and a time of it. -/
structure Moment where
  date : Date
  hour : Nat
  minute : Nat
  second : Nat
  microsecond : Nat
  offset : Option Offset
  deriving DecidableEq, Repr

/-! ## Faults -/

/-- Which part of a date or time is out of its range. -/
inductive MomentFault where
  | year (value : Nat)
  | month
  | day
  | hour
  | minute
  | second
  | offset (minutes : Int)
  deriving DecidableEq, Repr

/-- A time span in a message, in whole days and the seconds above them. -/
def spanLiteral (minutes : Int) : String :=
  let days := minutes.fdiv 1440
  let seconds := minutes.fmod 1440 * 60
  let parts := (if days = 0 then [] else ["days=" ++ toString days]) ++
    (if seconds = 0 then [] else ["seconds=" ++ toString seconds])
  "datetime.timedelta(" ++ (if parts.isEmpty then "0" else ", ".intercalate parts) ++ ")"

/-- A fault in words. -/
def MomentFault.message : MomentFault → String
  | .year value => "year " ++ toString value ++ " is out of range"
  | .month => "month must be in 1..12"
  | .day => "day is out of range for month"
  | .hour => "hour must be in 0..23"
  | .minute => "minute must be in 0..59"
  | .second => "second must be in 0..59"
  | .offset minutes =>
    "offset must be a timedelta strictly between -timedelta(hours=24) and timedelta(hours=24), not " ++
      spanLiteral minutes ++ "."

/-! ## Ranges -/

/-- Whether a year has a leap day. -/
def isLeap (year : Nat) : Bool := year % 4 == 0 && (year % 100 != 0 || year % 400 == 0)

/-- The number of days of a month. -/
def daysOf (year month : Nat) : Nat :=
  if month = 2 then if isLeap year then 29 else 28
  else if month = 4 ∨ month = 6 ∨ month = 9 ∨ month = 11 then 30
  else 31

/-- The date, if its parts are in their ranges. -/
def Date.check (d : Date) : Except MomentFault Date :=
  if d.year = 0 ∨ 9999 < d.year then .error (.year d.year)
  else if d.month = 0 ∨ 12 < d.month then .error .month
  else if d.day = 0 ∨ daysOf d.year d.month < d.day then .error .day
  else .ok d

/-- The offset, if it is less than a day. -/
def Offset.check (o : Offset) : Except MomentFault Offset :=
  if 1440 ≤ o.minutes.natAbs then .error (.offset o.minutes) else .ok o

/-- The moment, if its parts are in their ranges. The offset is looked at first. -/
def Moment.check (m : Moment) : Except MomentFault Moment := do
  let _ ← m.offset.mapM Offset.check
  let _ ← m.date.check
  if 23 < m.hour then .error .hour
  else if 59 < m.minute then .error .minute
  else if 59 < m.second then .error .second
  else .ok m

/-! ## Order in time -/

/-- The number of days in front of a date, counted from the first of March of the year zero. -/
def Date.dayNumber (d : Date) : Int :=
  let year : Int := if d.month ≤ 2 then (d.year : Int) - 1 else d.year
  let month : Int := if d.month ≤ 2 then (d.month : Int) + 9 else (d.month : Int) - 3
  365 * year + year.fdiv 4 - year.fdiv 100 + year.fdiv 400 + (153 * month + 2).fdiv 5 + d.day - 1

/-- The number of microseconds in front of a moment, in universal time if its offset is known. -/
def Moment.instant (m : Moment) : Int :=
  let minutes : Int := 1440 * m.date.dayNumber + 60 * m.hour + m.minute -
    ((m.offset.map Offset.minutes).getD 0)
  (60 * minutes + m.second) * 1000000 + m.microsecond

/-- Whether two moments are the same. One with an offset is never the same as one without. -/
def Moment.isSame (m n : Moment) : Bool :=
  m.offset.isSome == n.offset.isSome && m.instant == n.instant

/-! ## In messages -/

/-- A number in at least so many digits. -/
def padded (width n : Nat) : String :=
  let digits := Nat.toDigits 10 n
  String.ofList (List.replicate (width - digits.length) '0' ++ digits)

/-- A date in four, two and two digits. -/
def Date.text (d : Date) : String := padded 4 d.year ++ "-" ++ padded 2 d.month ++ "-" ++ padded 2 d.day

/-- An offset with its sign, in hours and minutes. -/
def Offset.text (o : Offset) : String :=
  (if o.minutes < 0 then "-" else "+") ++ padded 2 (o.minutes.natAbs / 60) ++ ":" ++
    padded 2 (o.minutes.natAbs % 60)

/-- A moment in digits. Microseconds are written if there are any. -/
def Moment.text (m : Moment) : String :=
  m.date.text ++ " " ++ padded 2 m.hour ++ ":" ++ padded 2 m.minute ++ ":" ++ padded 2 m.second ++
    (if m.microsecond = 0 then "" else "." ++ padded 6 m.microsecond) ++
    ((m.offset.map Offset.text).getD "")

/-- A date as it stands inside a message. -/
def Date.literal (d : Date) : String :=
  "datetime.date(" ++ ", ".intercalate ([d.year, d.month, d.day].map toString) ++ ")"

/-- An offset as it stands inside a message. -/
def Offset.literal (o : Offset) : String :=
  if o.minutes = 0 then "datetime.timezone.utc"
  else "datetime.timezone(" ++ spanLiteral o.minutes ++ ")"

/-- A moment as it stands inside a message. Seconds and microseconds of zero are left out at the
end. -/
def Moment.literal (m : Moment) : String :=
  let parts := [m.date.year, m.date.month, m.date.day, m.hour, m.minute] ++
    (if m.microsecond ≠ 0 then [m.second, m.microsecond]
      else if m.second ≠ 0 then [m.second] else [])
  let offset := m.offset.toList.map fun o => "tzinfo=" ++ o.literal
  "datetime.datetime(" ++ ", ".intercalate (parts.map toString ++ offset) ++ ")"

end SpannerDdl.Yaml
