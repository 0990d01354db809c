/-!
# Calendar — dates and points in time as document values

Dates of the Gregorian calendar in the years 1 to 9999, and points in time to the microsecond, with
or without an offset from universal time. Their text is the ISO 8601 form.
-/

namespace MappingDdl

/-- A day of the Gregorian calendar. -/
structure Date where
  year : Nat
  month : Nat
  day : Nat
  deriving Repr, DecidableEq, Inhabited

/-- A point in time; `offset` is in seconds east of universal time. -/
structure Timestamp where
  date : Date
  hour : Nat
  minute : Nat
  second : Nat
  microsecond : Nat
  offset : Option Int
  deriving Repr, DecidableEq, Inhabited

namespace Date

/-- Whether the year has a twenty-ninth of February. -/
def isLeapYear (year : Nat) : Bool :=
  year % 4 == 0 && (year % 100 != 0 || year % 400 == 0)

/-- The number of days of a month. -/
def daysInMonth (year month : Nat) : Nat :=
  if month = 2 then (if isLeapYear year then 29 else 28)
  else if month = 4 ∨ month = 6 ∨ month = 9 ∨ month = 11 then 30
  else 31

/-- The day with these numbers, if there is one. -/
def ofNumbers? (year month day : Nat) : Option Date :=
  if 1 ≤ year ∧ year ≤ 9999 ∧ 1 ≤ month ∧ month ≤ 12 ∧ 1 ≤ day ∧ day ≤ daysInMonth year month then
    some ⟨year, month, day⟩
  else none

/-- The number in decimal digits, padded with zeros to `width`. -/
def padded (width n : Nat) : String :=
  let ds := Nat.repr n
  String.ofList (List.replicate (width - ds.length) '0') ++ ds

/-- The day as `YYYY-MM-DD`. -/
def text (d : Date) : String :=
  s!"{padded 4 d.year}-{padded 2 d.month}-{padded 2 d.day}"

/-- Days before the first of March of year zero of the proleptic calendar do not occur; the number
of days since then orders dates and subtracts them. -/
def dayNumber (d : Date) : Int :=
  let y : Int := if d.month ≤ 2 then Int.ofNat d.year - 1 else d.year
  let m : Int := if d.month ≤ 2 then Int.ofNat d.month + 9 else Int.ofNat d.month - 3
  365 * y + y.fdiv 4 - y.fdiv 100 + y.fdiv 400 + (153 * m + 2).fdiv 5 + d.day - 1

/-- The day of a day number of at least zero. Years start in March, so that the day that leap years
add is their last one. -/
def ofDayNumber (n : Nat) : Date :=
  let era := n / 146097
  let day := n % 146097
  let year := (day - day / 1460 + day / 36524 - day / 146096) / 365
  let rest := day - (365 * year + year / 4 - year / 100)
  let month := (5 * rest + 2) / 153
  ⟨400 * era + year + (if month < 10 then 0 else 1), if month < 10 then month + 3 else month - 9,
    rest - (153 * month + 2) / 5 + 1⟩

end Date

namespace Timestamp

/-- The point in time with these numbers, if the clock shows them and the offset is less than a
day. -/
def ofNumbers? (date : Date) (hour minute second microsecond : Nat) (offset : Option Int) :
    Option Timestamp :=
  if hour < 24 ∧ minute < 60 ∧ second < 60 ∧ microsecond < 1000000 ∧
      (∀ o ∈ offset, -86400 < o ∧ o < 86400) then
    some ⟨date, hour, minute, second, microsecond, offset⟩
  else none

/-- An offset as `+HH:MM`, with seconds where they are not zero. -/
def offsetText (offset : Int) : String :=
  let n := offset.natAbs
  let seconds := if n % 60 = 0 then "" else ":" ++ Date.padded 2 (n % 60)
  (if offset < 0 then "-" else "+") ++ Date.padded 2 (n / 3600) ++ ":" ++
    Date.padded 2 (n / 60 % 60) ++ seconds

/-- The point in time with `separator` between day and clock; microseconds where they are not
zero. -/
def text (t : Timestamp) (separator : String) : String :=
  let fraction := if t.microsecond = 0 then "" else "." ++ Date.padded 6 t.microsecond
  t.date.text ++ separator ++ Date.padded 2 t.hour ++ ":" ++ Date.padded 2 t.minute ++ ":" ++
    Date.padded 2 t.second ++ fraction ++ (t.offset.map offsetText).getD ""

/-- The microseconds since the start of the calendar, in universal time where an offset is known. -/
def instant (t : Timestamp) : Int :=
  let seconds := t.date.dayNumber * 86400 + t.hour * 3600 + t.minute * 60 + t.second
  (seconds - t.offset.getD 0) * 1000000 + t.microsecond

/-- The day number of the first of January 1970. -/
def epochDay : Nat := 719468

/-- The point in time that lies so many microseconds after the start of 1970, in universal time. -/
def ofEpoch (microseconds : Nat) : Timestamp :=
  let seconds := microseconds / 1000000
  let clock := seconds % 86400
  ⟨.ofDayNumber (epochDay + seconds / 86400), clock / 3600, clock / 60 % 60, clock % 60,
    microseconds % 1000000, some 0⟩

/-- Two points in time are the same when both carry an offset or neither does, and they name the
same instant. -/
def same (s t : Timestamp) : Bool :=
  s.offset.isSome == t.offset.isSome && s.instant == t.instant

end Timestamp

end MappingDdl
