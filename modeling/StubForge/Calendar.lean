import StubForge.Text.Integer

set_option autoImplicit false

/-!
The proleptic Gregorian calendar and the date line of generated files. Days are counted from the
first day of year 1, which is day 0; seconds are counted from 1 January 1970.
-/

namespace StubForge

structure Date where
  year : Int
  month : Nat
  day : Nat
  deriving DecidableEq, Repr

namespace Date

def isLeap (year : Int) : Bool := year % 4 == 0 && (year % 100 != 0 || year % 400 == 0)

def monthLengths (leap : Bool) : List Nat :=
  [31, if leap then 29 else 28, 31, 30, 31, 30, 31, 31, 30, 31, 30, 31]

def yearStart (year : Int) : Int :=
  let y := year - 1
  y * 365 + y / 4 - y / 100 + y / 400

-- Month and day of the month, counted from 1, of a day of the year counted from 0.
def monthAndDay : List Nat → Nat → Nat → Nat × Nat
  | [], month, day => (month, day + 1)
  | length :: rest, month, day =>
      if day < length then (month, day + 1) else monthAndDay rest (month + 1) (day - length)

def ofDays (days : Int) : Date :=
  let cycle := days / 146097
  let inCycle := days % 146097
  let century := min (inCycle / 36524) 3
  let inCentury := inCycle - century * 36524
  let olympiad := inCentury / 1461
  let inOlympiad := inCentury % 1461
  let extra := min (inOlympiad / 365) 3
  let year := cycle * 400 + century * 100 + olympiad * 4 + extra + 1
  let dayOfYear := (inOlympiad - extra * 365).toNat
  let (month, day) := monthAndDay (monthLengths (isLeap year)) 1 dayOfYear
  ⟨year, month, day⟩

def days (d : Date) : Int :=
  yearStart d.year + (((monthLengths (isLeap d.year)).take (d.month - 1)).foldl (fun a b => a + b) 0 : Nat) + d.day - 1

-- Monday is 0.
def weekday (d : Date) : Nat := (d.days % 7).toNat

end Date

structure Moment where
  date : Date
  hour : Nat
  minute : Nat
  second : Nat
  -- Seconds east of Greenwich, if known.
  offset : Option Int
  deriving DecidableEq, Repr

inductive MomentFault where
  | notAnInteger (fault : Text.IntegerFault)
  | yearOutOfRange (year : Int)
  | fieldTooWide
  | beyondClock
  deriving DecidableEq, Repr

namespace MomentFault

def message : MomentFault → String
  | notAnInteger fault => fault.message
  | yearOutOfRange year => "year " ++ Text.intText year ++ " is out of range"
  | fieldTooWide => "[Errno 75] Value too large for defined data type"
  | beyondClock => "timestamp out of range for platform time_t"

end MomentFault

namespace Moment

def epochDay : Int := 719162

-- The date and time in UTC of a count of seconds, whatever year it lies in.
def ofSeconds (n : Int) : Moment :=
  let inDay := (n % 86400).toNat
  { date := Date.ofDays (n / 86400 + epochDay)
    hour := inDay / 3600
    minute := inDay / 60 % 60
    second := inDay % 60
    offset := some 0 }

def seconds (m : Moment) : Int :=
  (m.date.days - epochDay) * 86400 + (m.hour * 3600 + m.minute * 60 + m.second : Nat)

def clockLimit : Int := 9223372036854775808

def widestYear : Int := 2147485547

def ofSeconds? (n : Int) : Except MomentFault Moment :=
  if n < -clockLimit || clockLimit ≤ n then .error .beyondClock
  else
    let m := ofSeconds n
    if widestYear < m.date.year || m.date.year < -2147481748 then .error .fieldTooWide
    else if m.date.year < 1 || 9999 < m.date.year then .error (.yearOutOfRange m.date.year)
    else .ok m

def ofPinned (text : String) : Except MomentFault Moment :=
  match Text.readInteger text with
  | .error fault => .error (.notAnInteger fault)
  | .ok n => ofSeconds? n

def weekdayNames : List String := ["Mon", "Tue", "Wed", "Thu", "Fri", "Sat", "Sun"]

def monthNames : List String :=
  ["Jan", "Feb", "Mar", "Apr", "May", "Jun", "Jul", "Aug", "Sep", "Oct", "Nov", "Dec"]

def twoDigits (n : Nat) : String := String.ofList (Text.padLeft 2 '0' (Nat.toDigits 10 n))

def offsetText : Option Int → String
  | none => ""
  | some offset =>
      let size := offset.natAbs
      let sign := if offset < 0 then "-" else "+"
      let seconds := if size % 60 = 0 then "" else twoDigits (size % 60)
      sign ++ twoDigits (size / 3600) ++ twoDigits (size / 60 % 60) ++ seconds

-- Weekday, day, month, year, time and offset; only the time has leading zeros.
def headerText (m : Moment) : String :=
  weekdayNames.getD m.date.weekday "" ++ ", " ++ Text.natText m.date.day ++ " "
    ++ monthNames.getD (m.date.month - 1) "" ++ " " ++ Text.intText m.date.year ++ " "
    ++ twoDigits m.hour ++ ":" ++ twoDigits m.minute ++ ":" ++ twoDigits m.second ++ " "
    ++ offsetText m.offset

end Moment

end StubForge
