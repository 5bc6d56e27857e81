/-!
# Dates and times

Days of the calendar from the year 1 to the year 9999, times of day to the microsecond, and
moments, which join the two and may say how far their clock is ahead of universal time.
-/

namespace RegisterMachine.Calendar

/-- A day. -/
structure Date where
  year : Nat
  month : Nat
  day : Nat
deriving DecidableEq, Repr

/-- A time of day. -/
structure Time where
  hour : Nat
  minute : Nat
  second : Nat
  microsecond : Nat
deriving DecidableEq, Repr

/-- A time on a day. -/
structure Moment where
  date : Date
  time : Time
  /-- The minutes by which the clock is ahead of universal time, if that is known. -/
  offset? : Option Int
deriving DecidableEq, Repr

/-! ### The calendar -/

/-- Whether a year has a leap day. -/
def isLeapYear (year : Nat) : Bool := year % 4 == 0 && (year % 100 != 0 || year % 400 == 0)

/-- The number of days of a month. -/
def daysInMonth (year month : Nat) : Nat :=
  if month = 2 then if isLeapYear year then 29 else 28
  else if month ∈ [4, 6, 9, 11] then 30
  else 31

/-- Whether the calendar has the day. -/
def Date.isValid (d : Date) : Bool :=
  1 ≤ d.year && d.year ≤ 9999 && 1 ≤ d.month && d.month ≤ 12 && 1 ≤ d.day &&
    d.day ≤ daysInMonth d.year d.month

/-- The number of days of the first months of a year. -/
def daysOfMonths (year : Nat) : Nat → Nat
  | 0 => 0
  | months + 1 => daysOfMonths year months + daysInMonth year (months + 1)

/-- The number of the day, counted from the first day of the year 1. -/
def Date.number (d : Date) : Nat :=
  let years := d.year - 1
  365 * years + years / 4 - years / 100 + years / 400 + daysOfMonths d.year (d.month - 1) + d.day

/-- The microseconds since midnight. -/
def Time.microseconds (t : Time) : Nat :=
  ((t.hour * 60 + t.minute) * 60 + t.second) * 1000000 + t.microsecond

/-- The microseconds up to the moment, on its own clock if its offset is unknown, and in
universal time if it is known. -/
def Moment.microseconds (m : Moment) : Int :=
  (m.date.number * 86400000000 + m.time.microseconds : Nat) - m.offset?.getD 0 * 60000000

/-! ### Texts -/

/-- Numbers with commas between them. -/
def listed (numbers : List Nat) : String := ", ".intercalate (numbers.map (·.repr))

/-- The parts of a time that are shown: zeros at its end are not, but hour and minute are. -/
def Time.parts (t : Time) : List Nat :=
  if t.microsecond ≠ 0 then [t.hour, t.minute, t.second, t.microsecond]
  else if t.second ≠ 0 then [t.hour, t.minute, t.second]
  else [t.hour, t.minute]

/-- The parts of a date. -/
def Date.parts (d : Date) : List Nat := [d.year, d.month, d.day]

/-- A date as it is shown. -/
def Date.write (d : Date) : String := "datetime.date(" ++ listed d.parts ++ ")"

/-- A time as it is shown. -/
def Time.write (t : Time) : String := "datetime.time(" ++ listed t.parts ++ ")"

/-- An offset as it is shown: in whole days, rounded down, and the seconds that are left. -/
def writeOffset (minutes : Int) : String :=
  if minutes = 0 then "datetime.timezone.utc"
  else
    let days := minutes.fdiv 1440
    let seconds := (minutes.fmod 1440).toNat * 60
    let parts :=
      (if days = 0 then [] else ["days=" ++ (if days < 0 then "-" else "") ++ days.natAbs.repr]) ++
        (if seconds = 0 then [] else ["seconds=" ++ seconds.repr])
    "datetime.timezone(datetime.timedelta(" ++ ", ".intercalate parts ++ "))"

/-- A moment as it is shown. -/
def Moment.write (m : Moment) : String :=
  let offset := match m.offset? with
    | none => ""
    | some minutes => ", tzinfo=" ++ writeOffset minutes
  "datetime.datetime(" ++ listed (m.date.parts ++ m.time.parts) ++ offset ++ ")"

end RegisterMachine.Calendar
