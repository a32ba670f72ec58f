/-!
# Dates and moments

A date of the Gregorian calendar in the years 1 to 9999, and a moment on a date with its offset from
universal time, if that is known. Two moments are the same if they read the same and have no offset,
or if both have one and lie at the same instant.
-/

namespace InputBindings

/-! ## Dates -/

structure Date where
  year : Nat
  month : Nat
  day : Nat
  deriving DecidableEq, Repr, Inhabited

namespace Date

def isLeap (year : Nat) : Bool := year % 4 == 0 && (year % 100 != 0 || year % 400 == 0)

def daysIn (year month : Nat) : Nat :=
  if month == 2 then if isLeap year then 29 else 28
  else if [4, 6, 9, 11].contains month then 30
  else 31

/-- The day is one of the calendar. -/
def isValid (d : Date) : Bool :=
  1 ≤ d.year && d.year ≤ 9999 && 1 ≤ d.month && d.month ≤ 12 && 1 ≤ d.day &&
    d.day ≤ daysIn d.year d.month

/-- The count of days up to the date, itself included, from the first day of the year 1 on. -/
def ordinal (d : Date) : Nat :=
  let y := d.year - 1
  365 * y + y / 4 - y / 100 + y / 400 +
    (List.range (d.month - 1)).foldl (fun days m => days + daysIn d.year (m + 1)) 0 + d.day

end Date

/-- A number in at least so many digits. -/
def padded (width n : Nat) : String :=
  let digits := toString n
  "".pushn '0' (width - digits.length) ++ digits

/-- Year, month and day between dashes. -/
def Date.text (d : Date) : String :=
  padded 4 d.year ++ "-" ++ padded 2 d.month ++ "-" ++ padded 2 d.day

/-- The literal form of a date. -/
def Date.literal (d : Date) : String :=
  "datetime.date(" ++ ", ".intercalate ([d.year, d.month, d.day].map toString) ++ ")"

/-! ## Moments -/

structure Moment where
  date : Date
  hour : Nat
  minute : Nat
  second : Nat
  /-- Millionths of a second. -/
  micro : Nat
  /-- How many minutes the clock is ahead of universal time. -/
  offset : Option Int := none
  deriving DecidableEq, Repr, Inhabited

namespace Moment

/-- The greatest offset in either direction is less than a day. -/
def minutesOfDay : Nat := 1440

def isValid (m : Moment) : Bool :=
  m.date.isValid && m.hour < 24 && m.minute < 60 && m.second < 60 && m.micro < 1000000 &&
    m.offset.all fun o => o.natAbs < minutesOfDay

/-- The millionths of a second from the first day of the calendar on, by the clock. -/
def clock (m : Moment) : Nat :=
  (((m.date.ordinal * 24 + m.hour) * 60 + m.minute) * 60 + m.second) * 1000000 + m.micro

/-- The millionths of a second from the first day of the calendar on, in universal time. -/
def instant (m : Moment) (offset : Int) : Int := m.clock - offset * 60 * 1000000

def same (a b : Moment) : Bool :=
  match a.offset, b.offset with
  | none, none => a.clock == b.clock
  | some o, some p => a.instant o == b.instant p
  | _, _ => false

/-- An offset with its sign, in hours and minutes. -/
def offsetText (offset : Int) : String :=
  (if offset < 0 then "-" else "+") ++ padded 2 (offset.natAbs / 60) ++ ":" ++
    padded 2 (offset.natAbs % 60)

/-- Date, time and offset; the millionths are left out if there are none. -/
def text (m : Moment) : String :=
  m.date.text ++ " " ++ padded 2 m.hour ++ ":" ++ padded 2 m.minute ++ ":" ++ padded 2 m.second ++
    (if m.micro = 0 then "" else "." ++ padded 6 m.micro) ++ (m.offset.map offsetText).getD ""

/-- The literal form of an offset: whole days down, and seconds up from there. -/
def offsetLiteral (offset : Int) : String :=
  if offset = 0 then "datetime.timezone.utc"
  else
    let days := if offset < 0 then "days=-1, " else ""
    "datetime.timezone(datetime.timedelta(" ++ days ++ "seconds=" ++
      toString (offset % minutesOfDay * 60) ++ "))"

/-- The literal form of a moment; seconds and millionths are left out if all from there on are zero.
-/
def literal (m : Moment) : String :=
  let fine := if m.micro ≠ 0 then [m.second, m.micro] else if m.second ≠ 0 then [m.second] else []
  let parts := ([m.date.year, m.date.month, m.date.day, m.hour, m.minute] ++ fine).map toString
  let zone := m.offset.toList.map fun o => "tzinfo=" ++ offsetLiteral o
  "datetime.datetime(" ++ ", ".intercalate (parts ++ zone) ++ ")"

end Moment

end InputBindings
