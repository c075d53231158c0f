import StubForge.Text.Integer

set_option autoImplicit false

/-!
Binary floating point numbers with 53 bits of precision, in exact arithmetic: rounding a quotient
to the nearest number, the arithmetic that templates use, and the shortest decimal text that reads
back.
-/

namespace StubForge

-- A finite number is `mantissa * 2 ^ exponent`, with the mantissa below `2 ^ 53` and the exponent from -1074
-- on, and as small an exponent as that allows.
inductive Real64 where
  | finite (negative : Bool) (mantissa : Nat) (exponent : Int)
  | infinite (negative : Bool)
  | notANumber
  deriving DecidableEq, Repr

namespace Real64

def twoTo (k : Nat) : Nat := Nat.pow 2 k

def tenTo (k : Nat) : Nat := Nat.pow 10 k

def zero : Real64 := .finite false 0 (-1074)

-- The quotient rounded to the nearest integer, a half going to the even neighbour.
def roundQuotient (num den : Nat) : Nat :=
  let q := num / den
  let r := num % den
  if 2 * r < den then q
  else if den < 2 * r then q + 1
  else if q % 2 = 0 then q else q + 1

def scale (num den : Nat) (e : Int) : Nat × Nat :=
  if 0 ≤ e then (num, den * twoTo e.toNat) else (num * twoTo (-e).toNat, den)

def ofQuotient (negative : Bool) (num den : Nat) : Real64 :=
  if num = 0 then .finite negative 0 (-1074)
  else
    let guess : Int := (num.log2 : Int) - (den.log2 : Int) - 53
    let exponent := fun (e : Int) => if e < -1074 then (-1074 : Int) else e
    let attempt := fun (e : Int) => let (n, d) := scale num den e; roundQuotient n d
    let low := exponent guess
    let m := attempt low
    if m < twoTo 53 then build low m
    else
      let next := exponent (guess + 1)
      let m := attempt next
      if m < twoTo 53 then build next m
      else
        let last := exponent (guess + 2)
        build last (attempt last)
where
  build (e : Int) (m : Nat) : Real64 :=
    let (m, e) := if m = twoTo 53 then (twoTo 52, e + 1) else (m, e)
    if 971 < e then .infinite negative else .finite negative m e

def ofInt (n : Int) : Real64 := ofQuotient (decide (n < 0)) n.natAbs 1

def ofDecimal (negative : Bool) (digits : Nat) (power : Int) : Real64 :=
  if digits = 0 then .finite negative 0 (-1074)
  else if 400 < power then .infinite negative
  else if power < -400 - (Nat.toDigits 10 digits).length then .finite negative 0 (-1074)
  else if 0 ≤ power then ofQuotient negative (digits * tenTo power.toNat) 1
  else ofQuotient negative digits (tenTo (-power).toNat)

def isZero : Real64 → Bool
  | .finite _ 0 _ => true
  | _ => false

def parts : Real64 → Option (Int × Int)
  | .finite negative m e => some (if negative then -(m : Int) else m, e)
  | _ => none

def ofScaled (n : Int) (e : Int) (negativeZero : Bool) : Real64 :=
  let negative := if n = 0 then negativeZero else decide (n < 0)
  if 0 ≤ e then ofQuotient negative (n.natAbs * twoTo e.toNat) 1
  else ofQuotient negative n.natAbs (twoTo (-e).toNat)

def isNegative : Real64 → Bool
  | .finite negative _ _ => negative
  | .infinite negative => negative
  | .notANumber => false

def neg : Real64 → Real64
  | .finite negative m e => .finite (!negative) m e
  | .infinite negative => .infinite (!negative)
  | .notANumber => .notANumber

def add (a b : Real64) : Real64 :=
  match a, b with
  | .notANumber, _ => .notANumber
  | _, .notANumber => .notANumber
  | .infinite x, .infinite y => if x = y then .infinite x else .notANumber
  | .infinite x, _ => .infinite x
  | _, .infinite y => .infinite y
  | .finite x m e, .finite y n f =>
      let low := min e f
      let signed := fun (s : Bool) (k : Nat) => if s then -(k : Int) else (k : Int)
      let total := signed x m * twoTo (e - low).toNat + signed y n * twoTo (f - low).toNat
      ofScaled total low (x && y)

def sub (a b : Real64) : Real64 := add a b.neg

def mul (a b : Real64) : Real64 :=
  match a, b with
  | .notANumber, _ => .notANumber
  | _, .notANumber => .notANumber
  | .finite x m e, .finite y n f => ofScaled ((if x != y then -1 else 1) * (m * n : Nat)) (e + f) (x != y)
  | x, y => if x.isZero || y.isZero then .notANumber else .infinite (x.isNegative != y.isNegative)

def div (a b : Real64) : Real64 :=
  match a, b with
  | .notANumber, _ => .notANumber
  | _, .notANumber => .notANumber
  | .infinite _, .infinite _ => .notANumber
  | .infinite x, y => .infinite (x != y.isNegative)
  | .finite x _ _, .infinite y => .finite (x != y) 0 (-1074)
  | .finite x m e, .finite y n f =>
      if e ≥ f then ofQuotient (x != y) (m * twoTo (e - f).toNat) n
      else ofQuotient (x != y) m (n * twoTo (f - e).toNat)

def compare? (a b : Real64) : Option Ordering :=
  match a, b with
  | .notANumber, _ => none
  | _, .notANumber => none
  | .infinite x, .infinite y => some (if x = y then .eq else if x then .lt else .gt)
  | .infinite x, _ => some (if x then .lt else .gt)
  | _, .infinite y => some (if y then .gt else .lt)
  | .finite x m e, .finite y n f =>
      let low := min e f
      let signed := fun (s : Bool) (k : Nat) => if s then -(k : Int) else (k : Int)
      let left := signed x m * twoTo (e - low).toNat
      let right := signed y n * twoTo (f - low).toNat
      some (if left < right then .lt else if left = right then .eq else .gt)

def toInt? : Real64 → Option Int
  | .finite negative m e =>
      let value := if negative then -(m : Int) else (m : Int)
      if 0 ≤ e then some (value * twoTo e.toNat)
      else if m % twoTo (-e).toNat = 0 then some (value / twoTo (-e).toNat) else none
  | _ => none

def readsBack (m : Nat) (e : Int) (digits : Nat) (power : Int) : Bool :=
  ofDecimal false digits power == .finite false m e

-- The quotient `m * 2 ^ e / 10 ^ power`, rounded down, and whether the next integer is nearer.
def gridFloor (m : Nat) (e power : Int) : Nat × Bool :=
  let (num, den) := if 0 ≤ e then (m * twoTo e.toNat, 1) else (m, twoTo (-e).toNat)
  let (num, den) :=
    if 0 ≤ power then (num, den * tenTo power.toNat) else (num * tenTo (-power).toNat, den)
  (num / den, decide (den < 2 * (num % den)))

-- Tries one, two, … digits; the first count that has a decimal reading back wins, and of two such decimals
-- the nearer one.
def shortestFrom (m : Nat) (e top : Int) : Nat → Nat → Nat × Int
  | 0, count => let power := top - count; ((gridFloor m e power).1, power)
  | fuel + 1, count =>
      let power := top - count
      let (low, nearer) := gridFloor m e power
      let first := if nearer then low + 1 else low
      let second := if nearer then low else low + 1
      if readsBack m e first power then (first, power)
      else if readsBack m e second power then (second, power)
      else shortestFrom m e top fuel (count + 1)

def decimalTop (m : Nat) (e : Int) : Int :=
  let digitCount := fun (n : Nat) => ((Nat.toDigits 10 n).length : Int)
  if 0 ≤ e then digitCount (m * twoTo e.toNat)
  else
    let den := twoTo (-e).toNat
    if den ≤ m then digitCount (m / den)
    else 1 - digitCount (den / m)

def stripZeros : Nat → Nat → Int → Nat × Int
  | 0, digits, power => (digits, power)
  | fuel + 1, digits, power =>
      if digits ≠ 0 && digits % 10 = 0 then stripZeros fuel (digits / 10) (power + 1)
      else (digits, power)

def shortest (m : Nat) (e : Int) : Nat × Int :=
  let (digits, power) := shortestFrom m e (decimalTop m e + 1) 20 1
  stripZeros 20 digits power

def exponentText (n : Int) : List Char :=
  let size := Text.padLeft 2 '0' (Nat.toDigits 10 n.natAbs)
  (if n < 0 then '-' else '+') :: size

-- Positional from 0.0001 up to sixteen digits before the point, otherwise with an exponent.
def decimalText (digits : List Char) (power : Int) : List Char :=
  let point : Int := digits.length + power
  if -4 < point && point ≤ 16 then
    if point ≤ 0 then '0' :: '.' :: (List.replicate (-point).toNat '0' ++ digits)
    else if digits.length ≤ point.toNat then
      digits ++ List.replicate (point.toNat - digits.length) '0' ++ ['.', '0']
    else digits.take point.toNat ++ '.' :: digits.drop point.toNat
  else
    let rest := digits.drop 1
    digits.take 1 ++ (if rest.isEmpty then [] else '.' :: rest) ++ 'e' :: exponentText (point - 1)

def text : Real64 → String
  | .notANumber => "nan"
  | .infinite negative => if negative then "-inf" else "inf"
  | .finite negative m e =>
      let body :=
        if m = 0 then ['0', '.', '0']
        else let (digits, power) := shortest m e; decimalText (Nat.toDigits 10 digits) power
      String.ofList (if negative then '-' :: body else body)

end Real64

end StubForge
