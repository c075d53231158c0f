import StubForge.Datum
import StubForge.Text.Base64
import StubForge.Yaml.Node

set_option autoImplicit false

/-!
The data of a document. Scalars become constants by their kind, and mappings take over the entries
of the mappings that are merged into them.
-/

namespace StubForge.Yaml

/-! ### Scalars -/

def truth (text : String) : Except Fault Datum :=
  let word := text.map Char.toLower
  match Kind.truthWords.find? fun entry => entry.1 == word with
  | some (_, value) => .ok (.bool value)
  | none => .error (.raised "KeyError" (Text.quoted word))

def digitIn? (base : Nat) (c : Char) : Option Nat :=
  let value :=
    if 'a' ≤ c && c ≤ 'z' then some (c.toNat - 87)
    else if 'A' ≤ c && c ≤ 'Z' then some (c.toNat - 55)
    else Text.digitValue? c
  value.filter (· < base)

def signOf : List Char → Bool × List Char
  | '-' :: rest => (true, rest)
  | '+' :: rest => (false, rest)
  | chars => (false, chars)

def baseLetter (base : Nat) : Char := if base = 2 then 'b' else if base = 8 then 'o' else 'x'

def integerIn (base : Nat) (chars : List Char) : Except Fault Int :=
  let (negative, body) := signOf (Text.trimChars Text.isBlank chars)
  let digits := match body with
    | '0' :: mark :: rest =>
        if !rest.isEmpty && mark.toLower = baseLetter base then rest else body
    | _ => body
  match if digits.isEmpty then none else digits.mapM (digitIn? base) with
  | some values =>
      let size := Text.ofDigits base values
      .ok (if negative then -(size : Int) else size)
  | none =>
      .error (.raised "ValueError" ("invalid literal for int() with base " ++ Text.natText base ++ ": "
        ++ String.ofList (Text.quotedChars chars)))

def decimal (chars : List Char) : Except Fault Int :=
  (Text.readInteger (String.ofList chars)).mapError fun fault => .raised "ValueError" fault.message

-- A number whose parts count sixtieths of one another, the last part being whole units.
def sexagesimal (parts : List Int) : Int := parts.foldl (fun total part => total * 60 + part) 0

def noCharacter : Fault := .raised "IndexError" "string index out of range"

def integerParts (body : List Char) : Except Fault Int :=
  match body with
  | [] => .error noCharacter
  | ['0'] => .ok 0
  | '0' :: 'b' :: rest => integerIn 2 rest
  | '0' :: 'x' :: rest => integerIn 16 rest
  | '0' :: _ => integerIn 8 body
  | _ =>
      if body.contains ':' then ((Text.splitAt ':' body).mapM decimal).map sexagesimal
      else decimal body

def integer (text : String) : Except Fault Datum :=
  let chars := text.toList.filter (· ≠ '_')
  if chars.isEmpty then .error noCharacter
  else
    let (negative, body) := signOf chars
    (integerParts body).map fun value => .int (if negative then -value else value)

def floatBody? (negative : Bool) (chars : List Char) : Option Real64 :=
  if chars = "inf".toList || chars = "infinity".toList then some (.infinite negative)
  else if chars = "nan".toList then some .notANumber
  else do
    let whole := chars.takeWhile Char.isDigit
    let rest := chars.dropWhile Char.isDigit
    let (fraction, rest) := match rest with
      | '.' :: more => (more.takeWhile Char.isDigit, more.dropWhile Char.isDigit)
      | _ => ([], rest)
    let power ← match rest with
      | [] => some (0 : Int)
      | 'e' :: more =>
          let (down, digits) := signOf more
          if digits.isEmpty || !digits.all Char.isDigit then none
          else
            let size : Int := Timestamp.value digits
            some (if down then -size else size)
      | _ => none
    if whole.isEmpty && fraction.isEmpty then none
    else some (Real64.ofDecimal negative (Timestamp.value (whole ++ fraction)) (power - fraction.length))

def floatPart (chars : List Char) : Except Fault Real64 :=
  let (negative, body) := signOf (Text.trimChars Text.isBlank chars)
  match floatBody? negative body with
  | some value => .ok value
  | none =>
      .error (.raised "ValueError"
        ("could not convert string to float: " ++ String.ofList (Text.quotedChars chars)))

def floatSum : List Real64 → Real64 → Int → Real64
  | [], total, _ => total
  | part :: rest, total, base => floatSum rest (total.add (part.mul (Real64.ofInt base))) (base * 60)

def float (text : String) : Except Fault Datum :=
  let chars := (text.toList.filter (· ≠ '_')).map Char.toLower
  if chars.isEmpty then .error noCharacter
  else
    let (negative, body) := signOf chars
    let value :=
      if body = ".inf".toList then .ok (.infinite false)
      else if body = ".nan".toList then .ok .notANumber
      else if body.contains ':' then do
        let parts ← (Text.splitAt ':' body).mapM floatPart
        .ok (floatSum parts.reverse Real64.zero 1)
      else floatPart body
    value.map fun value => .float (if negative then value.neg else value)

def timestamp (text : String) : Except Fault Datum :=
  let chars := text.toList
  let chars := if chars.getLast? = some '\n' then chars.dropLast else chars
  match Timestamp.read? chars with
  | none => .error (.raised "AttributeError" "'NoneType' object has no attribute 'groupdict'")
  | some stamp =>
      match stamp.complaint? with
      | some complaint => .error (.raised "ValueError" complaint)
      | none => .ok (.moment stamp.text)

def binary (text : String) : Except Fault Datum :=
  if text.toList.any fun c => 127 < c.toNat then .error .malformed
  else
    match Text.readBase64 text.toList with
    | some data => .ok (.bytes data)
    | none => .error .malformed

def constant : Kind → String → Except Fault Datum
  | .null, _ => .ok .null
  | .bool, text => truth text
  | .int, text => integer text
  | .float, text => float text
  | .binary, text => binary text
  | .timestamp, text => timestamp text
  | .text, text => .ok (.text text)
  | _, _ => .error .malformed

/-! ### Collections -/

mutual
-- The text of a scalar, or of the default entry of a mapping.
def scalarText? : Node → Option String
  | .scalar _ text => some text
  | .mapping _ entries => defaultText? entries
  | _ => none
termination_by structural node => node
def defaultText? : List (Node × Node) → Option String
  | [] => none
  | (.scalar .default _, value) :: _ => scalarText? value
  | _ :: rest => defaultText? rest
termination_by structural entries => entries
end

def collect (entries : List (Datum × Datum)) : List (Datum × Datum) :=
  entries.foldl (fun all (key, value) => Datum.put key value all) []

def asKey (key : Except Fault Datum) : Except Fault Datum := do
  let key ← key
  if key.isConstant then .ok key else .error .malformed

mutual
def data : Node → Except Fault Datum
  | .cut isMapping => .ok (if isMapping then .mapping [] else .list [])
  | .scalar kind text => constant kind text
  | .sequence kind items =>
      match kind with
      | .sequence => do return .list (← dataOfAll items)
      | .pairs => do return .list (← dataOfPairs items)
      | _ => .error .malformed
  | .mapping kind entries =>
      match kind with
      | .mapping => do return .mapping (collect ((← merged entries) ++ (← own entries)))
      | .set => do return .set ((collect ((← merged entries) ++ (← own entries))).map (·.1))
      | .sequence => .error .malformed
      | .pairs => .error .malformed
      | kind =>
          match defaultText? entries with
          | some text => constant kind text
          | none => .error .malformed
termination_by structural node => node
def dataOfAll : List Node → Except Fault (List Datum)
  | [] => .ok []
  | item :: rest => do
      let value ← data item
      return value :: (← dataOfAll rest)
termination_by structural items => items
def dataOfPairs : List Node → Except Fault (List Datum)
  | [] => .ok []
  | .mapping _ [(key, value)] :: rest => do
      let key ← data key
      let value ← data value
      return .list [key, value] :: (← dataOfPairs rest)
  | _ :: _ => .error .malformed
termination_by structural items => items
def own : List (Node × Node) → Except Fault (List (Datum × Datum))
  | [] => .ok []
  | (.scalar .merge _, _) :: rest => own rest
  | (.scalar .default text, value) :: rest => do
      let value ← data value
      return (.text text, value) :: (← own rest)
  | (key, value) :: rest => do
      let key ← asKey (data key)
      let value ← data value
      return (key, value) :: (← own rest)
termination_by structural entries => entries
def merged : List (Node × Node) → Except Fault (List (Datum × Datum))
  | [] => .ok []
  | (.scalar .merge _, value) :: rest => do
      let found ← match value with
        | .mapping _ entries => do
            pure ((← merged entries) ++ (← own entries))
        | .sequence _ items => mergedItems items
        | .cut _ => pure []
        | .scalar _ _ => .error .malformed
      return found ++ (← merged rest)
  | _ :: rest => merged rest
termination_by structural entries => entries
-- Of several mappings to be merged, the first has the last word.
def mergedItems : List Node → Except Fault (List (Datum × Datum))
  | [] => .ok []
  | .mapping _ entries :: rest => do
      let first := (← merged entries) ++ (← own entries)
      return (← mergedItems rest) ++ first
  | .cut true :: rest => mergedItems rest
  | _ :: _ => .error .malformed
termination_by structural items => items
end

-- The data of a document; nothing at all counts as null.
def read (document : List Char) : Except Fault Datum := do
  let tokens ← tokens document
  match ← compose tokens with
  | some node => data node
  | none => .ok .null

end StubForge.Yaml
