import StubForge.Disk

set_option autoImplicit false

/-!
Data of a document, before it is known what it is to be read as: constants, and collections whose
keys may be constants of any kind.
-/

namespace StubForge

inductive Datum where
  | null
  | bool (value : Bool)
  | int (value : Int)
  | float (value : Real64)
  | text (value : String)
  | bytes (data : Bytes)
  -- A date or time, by its text.
  | moment (text : String)
  | list (items : List Datum)
  | set (items : List Datum)
  | mapping (entries : List (Datum × Datum))
  deriving Inhabited

namespace Datum

mutual
def ofJson : Json → Datum
  | .null => .null
  | .bool value => .bool value
  | .int value => .int value
  | .float value => .float value
  | .string value => .text value
  | .array items => .list (ofItems items)
  | .object members => .mapping (ofMembers members)
termination_by structural value => value
def ofItems : List Json → List Datum
  | [] => []
  | item :: rest => ofJson item :: ofItems rest
termination_by structural items => items
def ofMembers : List (String × Json) → List (Datum × Datum)
  | [] => []
  | (key, value) :: rest => (.text key, ofJson value) :: ofMembers rest
termination_by structural members => members
end

-- A value that stands for nothing: zero, or anything empty.
def isEmpty : Datum → Bool
  | null => true
  | bool value => !value
  | int value => value == 0
  | float value => value.isZero
  | text value => value.isEmpty
  | bytes data => data.isEmpty
  | moment _ => false
  | list items => items.isEmpty
  | set items => items.isEmpty
  | mapping entries => entries.isEmpty

def isConstant : Datum → Bool
  | list _ => false
  | set _ => false
  | mapping _ => false
  | _ => true

def number? : Datum → Option Real64
  | bool value => some (Real64.ofInt (if value then 1 else 0))
  | int value => some (Real64.ofInt value)
  | float value => some value
  | _ => none

def integer? : Datum → Option Int
  | bool value => some (if value then 1 else 0)
  | int value => some value
  | float value => value.toInt?
  | _ => none

-- Two constants are the same key; numbers of different kinds are, if they are equal.
def sameKey (a b : Datum) : Bool :=
  match a, b with
  | null, null => true
  | text x, text y => x == y
  | bytes x, bytes y => x == y
  | moment x, moment y => x == y
  | a, b =>
      match a.integer?, b.integer? with
      | some x, some y => x == y
      | none, none =>
          match a.number?, b.number? with
          | some x, some y => x.compare? y == some .eq
          | _, _ => false
      | _, _ => false

-- Sets the value of a key; one that is there keeps its position and its form.
def put (key value : Datum) : List (Datum × Datum) → List (Datum × Datum)
  | [] => [(key, value)]
  | (k, v) :: rest => if k.sameKey key then (k, value) :: rest else (k, v) :: put key value rest

def bytesText (data : Bytes) : String :=
  let chars := data.map fun byte => Char.ofNat byte.toNat
  let quote := Text.quoteFor chars
  let shown := fun (c : Char) =>
    if c.toNat < 128 then Text.escapeQuoted quote c else '\\' :: 'x' :: Text.hexDigits 2 c.toNat
  String.ofList ('b' :: quote :: (chars.flatMap shown ++ [quote]))

def keyName : Datum → Json
  | null => .string "None"
  | bool value => .int (if value then 1 else 0)
  | int value => .int value
  | float value => .string value.text
  | text value => .string value
  | bytes data => .string (bytesText data)
  | moment shown => .string shown
  | _ => .null

end Datum

end StubForge
