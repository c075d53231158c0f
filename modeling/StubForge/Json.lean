import StubForge.Number

set_option autoImplicit false

/-!
JSON values, the ASCII text that manifests are written in, and a reader for it. Writing sorts the
members of an object by key and escapes the characters that have a meaning in markup.
-/

namespace StubForge

inductive Json where
  | null
  | bool (value : Bool)
  | int (value : Int)
  | float (value : Real64)
  | string (value : String)
  | array (items : List Json)
  | object (members : List (String × Json))
  deriving Repr, BEq, Inhabited

namespace Json

def field? (key : String) : Json → Option Json
  | .object members => (members.find? fun member => member.1 == key).map (·.2)
  | _ => none

-- Inserts a member after all members whose key is not larger.
def insertMember {α : Type} (key : String) (value : α) : List (String × α) → List (String × α)
  | [] => [(key, value)]
  | (k, v) :: rest =>
      if key < k then (key, value) :: (k, v) :: rest else (k, v) :: insertMember key value rest

def sortMembers {α : Type} : List (String × α) → List (String × α)
  | [] => []
  | members => members.foldl (fun sorted member => insertMember member.1 member.2 sorted) []

def unicodeEscape (n : Nat) : List Char := '\\' :: 'u' :: Text.hexDigits 4 n

-- Characters that are written as an escape although they are printable ASCII.
def isMarkup (c : Char) : Bool := c = '<' || c = '>' || c = '&' || c = '\''

def escapeChar (c : Char) : List Char :=
  if c = '"' then ['\\', '"']
  else if c = '\\' then ['\\', '\\']
  else if c = '\n' then ['\\', 'n']
  else if c = '\r' then ['\\', 'r']
  else if c = '\t' then ['\\', 't']
  else if c = '\x08' then ['\\', 'b']
  else if c = '\x0c' then ['\\', 'f']
  else if isMarkup c then unicodeEscape c.toNat
  else if 32 ≤ c.toNat && c.toNat < 127 then [c]
  else if c.toNat < 0x10000 then unicodeEscape c.toNat
  else
    let offset := c.toNat - 0x10000
    unicodeEscape (0xd800 + offset / 0x400) ++ unicodeEscape (0xdc00 + offset % 0x400)

def stringChars (s : String) : List Char := '"' :: (s.toList.flatMap escapeChar ++ ['"'])

def floatChars : Real64 → List Char
  | .infinite negative => (if negative then ['-'] else []) ++ "Infinity".toList
  | .notANumber => "NaN".toList
  | x => x.text.toList

mutual
def chars : Json → List Char
  | .null => "null".toList
  | .bool value => (if value then "true" else "false").toList
  | .int value => (Text.intText value).toList
  | .float value => floatChars value
  | .string value => stringChars value
  | .array items => '[' :: (itemChars items ++ [']'])
  | .object members => '\x7b' :: (writtenMembers (sortMembers (memberTexts members)) ++ ['\x7d'])
termination_by structural value => value
def itemChars : List Json → List Char
  | [] => []
  | [item] => chars item
  | item :: rest => chars item ++ ',' :: ' ' :: itemChars rest
termination_by structural items => items
def memberTexts : List (String × Json) → List (String × List Char)
  | [] => []
  | (key, value) :: rest => (key, chars value) :: memberTexts rest
termination_by structural members => members
def writtenMembers : List (String × List Char) → List Char
  | [] => []
  | [(key, value)] => stringChars key ++ ':' :: ' ' :: value
  | (key, value) :: rest =>
      stringChars key ++ ':' :: ' ' :: (value ++ ',' :: ' ' :: writtenMembers rest)
termination_by structural members => members
end

def text (value : Json) : String := String.ofList value.chars

def hexValue? (c : Char) : Option Nat :=
  if c.isDigit then some (c.toNat - 48)
  else if 'a' ≤ c ∧ c ≤ 'f' then some (c.toNat - 87)
  else if 'A' ≤ c ∧ c ≤ 'F' then some (c.toNat - 55)
  else none

def hexNumber? (a b c d : Char) : Option Nat := do
  return (((← hexValue? a) * 16 + (← hexValue? b)) * 16 + (← hexValue? c)) * 16 + (← hexValue? d)

def simpleEscape? : Char → Option Char
  | '"' => some '"'
  | '\\' => some '\\'
  | '/' => some '/'
  | 'b' => some '\x08'
  | 'f' => some '\x0c'
  | 'n' => some '\n'
  | 'r' => some '\r'
  | 't' => some '\t'
  | _ => none

def readString : List Char → Option (List Char × List Char)
  | [] => none
  | '"' :: rest => some ([], rest)
  | '\\' :: 'u' :: a :: b :: c :: d :: '\\' :: 'u' :: e :: f :: g :: h :: rest =>
      match hexNumber? a b c d, hexNumber? e f g h with
      | some high, some low =>
          if 0xd800 ≤ high && high < 0xdc00 && 0xdc00 ≤ low && low < 0xe000 then
            (readString rest).map fun (s, r) =>
              (Char.ofNat (0x10000 + (high - 0xd800) * 0x400 + (low - 0xdc00)) :: s, r)
          else
            (readString ('\\' :: 'u' :: e :: f :: g :: h :: rest)).map fun (s, r) =>
              (Char.ofNat high :: s, r)
      | some high, none => (readString ('\\' :: 'u' :: e :: f :: g :: h :: rest)).map fun (s, r) =>
          (Char.ofNat high :: s, r)
      | none, _ => none
  | '\\' :: 'u' :: a :: b :: c :: d :: rest =>
      match hexNumber? a b c d with
      | some n => (readString rest).map fun (s, r) => (Char.ofNat n :: s, r)
      | none => none
  | '\\' :: c :: rest =>
      match simpleEscape? c with
      | some plain => (readString rest).map fun (s, r) => (plain :: s, r)
      | none => none
  | c :: rest => if c.toNat < 32 then none else (readString rest).map fun (s, r) => (c :: s, r)

def isNumberChar (c : Char) : Bool := c.isDigit || c = '.' || c = 'e' || c = 'E' || c = '+' || c = '-'

def readExponent : List Char → Option Int
  | '+' :: rest => natural rest
  | '-' :: rest => (natural rest).map (- ·)
  | rest => natural rest
where
  natural (s : List Char) : Option Int :=
    if s.isEmpty || !s.all Char.isDigit then none
    else some (Text.ofDigits 10 (s.map fun c => c.toNat - 48) : Nat)

def readNumber (s : List Char) : Option Json :=
  let (negative, body) := match s with
    | '-' :: rest => (true, rest)
    | rest => (false, rest)
  let whole := body.takeWhile Char.isDigit
  let rest := body.dropWhile Char.isDigit
  let value := fun (digits : List Char) => Text.ofDigits 10 (digits.map fun c => c.toNat - 48)
  if whole.isEmpty || (whole.length ≠ 1 && whole.head? = some '0') then none
  else
    let (fraction, rest, pointed) := match rest with
      | '.' :: more => (more.takeWhile Char.isDigit, more.dropWhile Char.isDigit, true)
      | more => ([], more, false)
    if pointed && fraction.isEmpty then none
    else
      let number := fun (e : Int) =>
        Json.float (Real64.ofDecimal negative (value (whole ++ fraction)) (e - fraction.length))
      match rest with
      | [] =>
          if pointed then some (number 0)
          else some (.int (if negative then -(value whole : Int) else value whole))
      | e :: more => if e = 'e' || e = 'E' then (readExponent more).map number else none

def isSpace (c : Char) : Bool := c = ' ' || c = '\n' || c = '\r' || c = '\t'

def skipSpace (s : List Char) : List Char := s.dropWhile isSpace

-- The last member of a key counts, in the place of the first one.
def setMember {α : Type} (key : String) (value : α) : List (String × α) → List (String × α)
  | [] => [(key, value)]
  | (k, v) :: rest => if k = key then (k, value) :: rest else (k, v) :: setMember key value rest

mutual
def readValue : Nat → List Char → Option (Json × List Char)
  | 0, _ => none
  | fuel + 1, s =>
      match skipSpace s with
      | '"' :: rest => (readString rest).map fun (text, r) => (.string (String.ofList text), r)
      | '[' :: rest =>
          match skipSpace rest with
          | ']' :: r => some (.array [], r)
          | r => (readItems fuel r).map fun (items, r) => (.array items, r)
      | '\x7b' :: rest =>
          match skipSpace rest with
          | '\x7d' :: r => some (.object [], r)
          | r => (readMembers fuel [] r).map fun (members, r) => (.object members, r)
      | 'n' :: 'u' :: 'l' :: 'l' :: r => some (.null, r)
      | 't' :: 'r' :: 'u' :: 'e' :: r => some (.bool true, r)
      | 'f' :: 'a' :: 'l' :: 's' :: 'e' :: r => some (.bool false, r)
      | 'N' :: 'a' :: 'N' :: r => some (.float .notANumber, r)
      | 'I' :: 'n' :: 'f' :: 'i' :: 'n' :: 'i' :: 't' :: 'y' :: r => some (.float (.infinite false), r)
      | '-' :: 'I' :: 'n' :: 'f' :: 'i' :: 'n' :: 'i' :: 't' :: 'y' :: r =>
          some (.float (.infinite true), r)
      | r => (readNumber (r.takeWhile isNumberChar)).map fun value => (value, r.dropWhile isNumberChar)
def readItems : Nat → List Char → Option (List Json × List Char)
  | 0, _ => none
  | fuel + 1, s => do
      let (item, r) ← readValue fuel s
      match skipSpace r with
      | ',' :: r => let (items, r) ← readItems fuel r; return (item :: items, r)
      | ']' :: r => return ([item], r)
      | _ => none
def readMembers : Nat → List (String × Json) → List Char → Option (List (String × Json) × List Char)
  | 0, _, _ => none
  | fuel + 1, before, s =>
      match skipSpace s with
      | '"' :: rest => do
          let (key, r) ← readString rest
          match skipSpace r with
          | ':' :: r =>
              let (value, r) ← readValue fuel r
              let members := setMember (String.ofList key) value before
              match skipSpace r with
              | ',' :: r => readMembers fuel members r
              | '\x7d' :: r => return (members, r)
              | _ => none
          | _ => none
      | _ => none
end

def read? (s : String) : Option Json :=
  let chars := s.toList
  match readValue (chars.length + 1) chars with
  | some (value, rest) => if (skipSpace rest).isEmpty then some value else none
  | none => none

end Json

end StubForge
