import StubForge.Calendar

set_option autoImplicit false

/-!
Dates and times as scalars write them: a date, which a time of day and an offset may follow.
-/

namespace StubForge.Yaml

structure Timestamp where
  year : Nat
  month : Nat
  day : Nat
  isPadded : Bool
  time : Option (Nat × Nat × Nat) := none
  microsecond : Nat := 0
  -- Minutes east of Greenwich.
  offset : Option Int := none
  deriving DecidableEq, Repr

namespace Timestamp

def digits? (least most : Nat) (chars : List Char) : Option (List Char × List Char) :=
  let run := (chars.take most).takeWhile Char.isDigit
  if run.length < least then none else some (run, chars.drop run.length)

def value (digits : List Char) : Nat :=
  digits.foldl (fun total c => total * 10 + (c.toNat - 48)) 0

def number? (least most : Nat) (chars : List Char) : Option (Nat × List Char) :=
  (digits? least most chars).map fun (run, rest) => (value run, rest)

def after? (mark : Char) (chars : List Char) : Option (List Char) :=
  match chars with
  | c :: rest => if c = mark then some rest else none
  | [] => none

def isBlank (c : Char) : Bool := c = ' ' || c = '\t'

-- The digits after the point, as millionths; further digits are cut off.
def microseconds (digits : List Char) : Nat :=
  value (digits.take 6 ++ List.replicate (6 - digits.length) '0')

def offset? (chars : List Char) : Option (Option Int) :=
  match chars.dropWhile isBlank with
  | [] => if chars.isEmpty then some none else none
  | ['Z'] => some (some 0)
  | sign :: rest =>
      if sign = '+' || sign = '-' then do
        let (hours, rest) ← number? 1 2 rest
        let minutes ←
          if rest.isEmpty then some 0
          else do
            let (minutes, rest) ← number? 2 2 (← after? ':' rest)
            if rest.isEmpty then some minutes else none
        let total : Int := (hours * 60 + minutes : Nat)
        some (some (if sign = '-' then -total else total))
      else none

def time? (date : Timestamp) (chars : List Char) : Option Timestamp := do
  let rest ← match chars with
    | 'T' :: rest => some rest
    | 't' :: rest => some rest
    | c :: rest => if isBlank c then some (rest.dropWhile isBlank) else none
    | [] => none
  let (hour, rest) ← number? 1 2 rest
  let (minute, rest) ← number? 2 2 (← after? ':' rest)
  let (second, rest) ← number? 2 2 (← after? ':' rest)
  let (fraction, rest) := match after? '.' rest with
    | some more => (more.takeWhile Char.isDigit, more.dropWhile Char.isDigit)
    | none => ([], rest)
  let offset ← offset? rest
  some { date with time := some (hour, minute, second), microsecond := microseconds fraction, offset }

def read? (chars : List Char) : Option Timestamp := do
  let (year, rest) ← number? 4 4 chars
  let (month, rest) ← digits? 1 2 (← after? '-' rest)
  let (day, rest) ← digits? 1 2 (← after? '-' rest)
  let date : Timestamp :=
    { year, month := value month, day := value day, isPadded := month.length = 2 && day.length = 2 }
  if rest.isEmpty then some date else time? date rest

-- A scalar that is written like this is a timestamp without being marked as one. A date alone has to be
-- written in full.
def isEvident (stamp : Timestamp) : Bool := stamp.time.isSome || stamp.isPadded

def deltaText (minutes : Int) : String :=
  let days := minutes / 1440
  let seconds := minutes % 1440 * 60
  let parts := (if days = 0 then [] else ["days=" ++ Text.intText days])
    ++ (if seconds = 0 then [] else ["seconds=" ++ Text.intText seconds])
  "datetime.timedelta(" ++ (if parts.isEmpty then "0" else Text.join ", " parts) ++ ")"

def complaint? (stamp : Timestamp) : Option String :=
  let (hour, minute, second) := stamp.time.getD (0, 0, 0)
  let size := (stamp.offset.getD 0).natAbs
  if 1440 ≤ size then
    some ("offset must be a timedelta strictly between -timedelta(hours=24) and timedelta(hours=24), not "
      ++ deltaText (stamp.offset.getD 0) ++ ".")
  else if stamp.year = 0 then some "year 0 is out of range"
  else if stamp.month = 0 || 12 < stamp.month then some "month must be in 1..12"
  else if stamp.day = 0
      || (Date.monthLengths (Date.isLeap stamp.year)).getD (stamp.month - 1) 0 < stamp.day then
    some "day is out of range for month"
  else if 23 < hour then some "hour must be in 0..23"
  else if 59 < minute then some "minute must be in 0..59"
  else if 59 < second then some "second must be in 0..59"
  else none

def padded (width n : Nat) : String := String.ofList (Text.padLeft width '0' (Nat.toDigits 10 n))

def offsetText (minutes : Int) : String :=
  (if minutes < 0 then "-" else "+") ++ padded 2 (minutes.natAbs / 60) ++ ":"
    ++ padded 2 (minutes.natAbs % 60)

def text (stamp : Timestamp) : String :=
  let date := padded 4 stamp.year ++ "-" ++ padded 2 stamp.month ++ "-" ++ padded 2 stamp.day
  match stamp.time with
  | none => date
  | some (hour, minute, second) =>
      let fraction := if stamp.microsecond = 0 then "" else "." ++ padded 6 stamp.microsecond
      date ++ " " ++ padded 2 hour ++ ":" ++ padded 2 minute ++ ":" ++ padded 2 second ++ fraction
        ++ (stamp.offset.map offsetText).getD ""

end Timestamp

end StubForge.Yaml
