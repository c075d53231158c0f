import StubForge.Text.Quoted

set_option autoImplicit false

/-!
Decimal integers as text. Reading allows blanks around the number, a sign, digits of any script
and single underscores between digits.
-/

namespace StubForge.Text

def natText (n : Nat) : String := String.ofList (Nat.toDigits 10 n)

def intText (n : Int) : String :=
  match n with
  | .ofNat m => natText m
  | .negSucc m => "-" ++ natText (m + 1)

inductive IntegerFault where
  | notANumber (text : String)
  | tooLong (digits : Nat)
  deriving DecidableEq, Repr

def IntegerFault.message : IntegerFault → String
  | .notANumber text =>
      "invalid literal for int() with base 10: " ++ String.ofList ((quotedChars text.toList).take 200)
  | .tooLong digits =>
      "Exceeds the limit (4300 digits) for integer string conversion: value has " ++ natText digits
        ++ " digits; use sys.set_int_max_str_digits() to increase the limit"

def digitRun? : List Char → Option (List Nat)
  | [] => none
  | [c] => (digitValue? c).map ([·])
  | c :: '_' :: rest => do return (← digitValue? c) :: (← digitRun? rest)
  | c :: rest => do return (← digitValue? c) :: (← digitRun? rest)

def ofDigits (base : Nat) (digits : List Nat) : Nat :=
  digits.foldl (fun total digit => total * base + digit) 0

def readInteger (s : String) : Except IntegerFault Int :=
  let chars := s.toList
  let blank := if chars.all (·.toNat < 128) then isAsciiBlank
    else fun c => if c.toNat < 127 then isAsciiBlank c else isBlank c
  let body := trimChars blank chars
  let (negative, body) := match body with
    | '-' :: rest => (true, rest)
    | '+' :: rest => (false, rest)
    | rest => (false, rest)
  match digitRun? body with
  | none => .error (.notANumber s)
  | some digits =>
      if 4300 < digits.length then .error (.tooLong digits.length)
      else
        let value := ofDigits 10 digits
        .ok (if negative then -(value : Int) else value)

end StubForge.Text
