import StubForge.Yaml.Timestamp

set_option autoImplicit false

/-!
The kinds of nodes. A plain scalar that is not marked has the kind that its text looks like.
-/

namespace StubForge.Yaml

def standardPrefix : String := "tag:yaml.org,2002:"

inductive Kind where
  | null
  | bool
  | int
  | float
  | binary
  | timestamp
  | text
  | sequence
  | mapping
  | set
  | pairs
  | merge
  | default
  | unknown
  deriving DecidableEq, Repr

namespace Kind

def names : List (String × Kind) := [
  ("null", .null), ("bool", .bool), ("int", .int), ("float", .float), ("binary", .binary),
  ("timestamp", .timestamp), ("str", .text), ("seq", .sequence), ("map", .mapping), ("set", .set),
  ("omap", .pairs), ("pairs", .pairs), ("merge", .merge), ("value", .default)]

def ofTag (tag : String) : Kind :=
  match Text.stripLeading? standardPrefix.toList tag.toList with
  | some name =>
      ((names.find? fun entry => entry.1 == String.ofList name).map (·.2)).getD .unknown
  | none => .unknown

/-! ### Texts of the kinds -/

def truthWords : List (String × Bool) := [
  ("yes", true), ("no", false), ("true", true), ("false", false), ("on", true), ("off", false)]

-- A word in lower case, in upper case, or with a capital.
def isSpelling (word text : String) : Bool :=
  text == word || text == word.map Char.toUpper || text == word.capitalize

def isTruthWord (text : String) : Bool := truthWords.any fun entry => isSpelling entry.1 text

def isNullWord (text : String) : Bool := text == "" || text == "~" || isSpelling "null" text

def afterSign : List Char → List Char
  | '-' :: rest => rest
  | '+' :: rest => rest
  | chars => chars

def isDigitOr (c : Char) : Bool := c.isDigit || c = '_'

def isDigits : List Char → Bool
  | [] => false
  | c :: rest => c.isDigit && rest.all isDigitOr

def isSixtieth : List Char → Bool
  | [a] => a.isDigit
  | [a, b] => '0' ≤ a && a ≤ '5' && b.isDigit
  | _ => false

def isSexagesimal : List (List Char) → Bool
  | first :: second :: more => isDigits first && (second :: more).all isSixtieth
  | _ => false

def isHexDigit (c : Char) : Bool := c.isDigit || ('a' ≤ c && c ≤ 'f') || ('A' ≤ c && c ≤ 'F')

def allOf (wanted : Char → Bool) (chars : List Char) : Bool :=
  !chars.isEmpty && chars.all fun c => wanted c || c = '_'

def isInt (chars : List Char) : Bool :=
  match afterSign chars with
  | '0' :: 'b' :: rest => allOf (fun c => c = '0' || c = '1') rest
  | '0' :: 'x' :: rest => allOf isHexDigit rest
  | ['0'] => true
  | '0' :: rest => allOf (fun c => '0' ≤ c && c ≤ '7') rest
  | body => isDigits body || isSexagesimal (Text.splitAt ':' body)

def isExponent : List Char → Bool
  | [] => true
  | e :: sign :: digits =>
      (e = 'e' || e = 'E') && (sign = '+' || sign = '-') && !digits.isEmpty && digits.all Char.isDigit
  | _ => false

-- Digits after a point, and an exponent, which always has a sign.
def isFraction (chars : List Char) : Bool := isExponent (chars.dropWhile isDigitOr)

def isInfinity (chars : List Char) : Bool :=
  ["inf", "Inf", "INF"].any fun word => chars = '.' :: word.toList

def isFloat (chars : List Char) : Bool :=
  let body := afterSign chars
  let whole := body.takeWhile (· ≠ '.')
  let fraction := body.drop (whole.length + 1)
  if isInfinity body then true
  else if chars.head? = some '.' then
    [".nan", ".NaN", ".NAN"].any (fun word => chars = word.toList)
      || (match fraction with
          | c :: rest => c.isDigit && isFraction rest
          | [] => false)
  else if whole.length = body.length then false
  else if isDigits whole then isFraction fraction
  else isSexagesimal (Text.splitAt ':' whole) && fraction.all isDigitOr

-- The kind of a scalar by its text. A line end that closes the text does not count.
def ofText (text : String) : Kind :=
  let chars := text.toList
  let chars := if chars.getLast? = some '\n' then chars.dropLast else chars
  let line := String.ofList chars
  if isTruthWord line then .bool
  else if isFloat chars then .float
  else if isInt chars then .int
  else if line == "<<" then .merge
  else if isNullWord line then .null
  else if (Timestamp.read? chars).any Timestamp.isEvident then .timestamp
  else if line == "=" then .default
  else .text

end Kind

end StubForge.Yaml
