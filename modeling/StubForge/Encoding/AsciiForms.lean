import StubForge.Encoding.Utf8

set_option autoImplicit false

/-!
Encodings that write every text in ASCII characters: UTF-7, which shifts into a base of 64 for other characters,
Punycode, which appends to the ASCII characters of a text where the others go, and names of hosts, of which every label
is written for itself.
-/

namespace StubForge

-- The words of 16 bits that a character has in UTF-16.
def utf16Units (c : Char) : List Nat :=
  let n := c.toNat
  if n < 0x10000 then [n]
  else [0xd800 + (n - 0x10000) / 0x400, 0xdc00 + (n - 0x10000) % 0x400]

namespace Utf7

def isDirect (c : Char) : Bool :=
  c = '\t' || c = '\n' || c = '\r' || (' ' ≤ c && c ≤ '}' && c ≠ '+' && c ≠ '\\')

def digits : List Char := "ABCDEFGHIJKLMNOPQRSTUVWXYZabcdefghijklmnopqrstuvwxyz0123456789+/".toList

def unitBits (n : Nat) : List Bool := (List.range 16).map fun k => n.testBit (15 - k)

def digit (bits : List Bool) : Char := digits.getD (bits.foldl (fun n bit => 2 * n + bit.toNat) 0) 'A'

def digitsOf : List Bool → List Char
  | a :: b :: c :: d :: e :: f :: rest => digit [a, b, c, d, e, f] :: digitsOf rest
  | [] => []
  | short => [digit (short ++ List.replicate (6 - short.length) false)]

def shifted (run : List Char) : List Char := '+' :: digitsOf (run.flatMap fun c => (utf16Units c).flatMap unitBits)

-- The characters of a run that is not ended are not written yet. Its end is marked where the next character could be
-- taken for a part of it.
def encodeFrom (run : List Char) : List Char → List Char
  | [] => if run.isEmpty then [] else shifted run ++ ['-']
  | c :: rest =>
      if run.isEmpty then
        if c = '+' then '+' :: '-' :: encodeFrom [] rest
        else if isDirect c then c :: encodeFrom [] rest
        else encodeFrom [c] rest
      else if isDirect c then
        shifted run ++ (if digits.contains c || c = '-' then ['-'] else []) ++ c :: encodeFrom [] rest
      else encodeFrom (run ++ [c]) rest

def encode (text : List Char) : List UInt8 := Utf8.encode (encodeFrom [] text)

end Utf7

namespace Punycode

def threshold (place bias : Nat) : Nat := max 1 (min 26 (36 * (place + 1) - bias))

def digit (n : Nat) : Char := "abcdefghijklmnopqrstuvwxyz0123456789".toList.getD n 'a'

def numeral (place bias n : Nat) : List Char :=
  let least := threshold place bias
  if n < least then [digit n]
  else digit (least + (n - least) % (36 - least)) :: numeral (place + 1) bias ((n - least) / (36 - least))
termination_by n
decreasing_by
  have positive : 1 ≤ threshold place bias := Nat.le_max_left ..
  exact Nat.lt_of_le_of_lt (Nat.div_le_self _ _) (by omega)

def settled (delta : Nat) : Nat :=
  if 455 < delta then 36 + settled (delta / 35) else 36 * delta / (delta + 38)
termination_by delta
decreasing_by exact Nat.div_lt_self (by omega) (by decide)

def adapted (delta : Nat) (first : Bool) (count : Nat) : Nat :=
  let damped := if first then delta / 700 else delta / 2
  settled (damped + damped / count)

structure Coder where
  -- The code point from which on characters are still to be placed.
  next : Nat := 128
  delta : Nat := 0
  bias : Nat := 72
  placed : Nat
  written : List Char := []

-- Passes by a character while those with the next code point are placed.
def Coder.pass (base : Nat) (coder : Coder) (c : Char) : Coder :=
  if c.toNat < coder.next then { coder with delta := coder.delta + 1 }
  else if c.toNat = coder.next then
    { coder with
      delta := 0
      bias := adapted coder.delta (coder.placed = base) (coder.placed + 1)
      placed := coder.placed + 1
      written := coder.written ++ numeral 0 coder.bias coder.delta }
  else coder

def Coder.place (text : List Char) (base : Nat) (coder : Coder) (point : Nat) : Coder :=
  let coder := { coder with
    next := point, delta := coder.delta + (point - coder.next) * (coder.placed + 1) }
  let coder := text.foldl (Coder.pass base) coder
  { coder with next := coder.next + 1, delta := coder.delta + 1 }

def encode (text : List Char) : List UInt8 :=
  let base := text.filter (·.toNat < 128)
  let points := (((text.map Char.toNat).filter (128 ≤ ·)).eraseDups).mergeSort
  let coder := points.foldl (Coder.place text base.length) { placed := base.length }
  Utf8.encode ((if base.isEmpty then [] else base ++ ['-']) ++ coder.written)

end Punycode

namespace Domain

def isDot (c : Char) : Bool := c = '.' || c = '\u3002' || c = '\uff0e' || c = '\uff61'

-- The labels of a name; the last one may be empty.
def labels (text : List Char) : List (List Char) :=
  Text.splitAt '.' (text.map fun c => if isDot c then '.' else c)

-- A label may have 63 characters. Only labels in ASCII are known.
def label (text : List Char) : Except String (List Char) :=
  if text.any (128 ≤ ·.toNat) then .error "label is not ASCII"
  else if text.isEmpty || 64 ≤ text.length then .error "label empty or too long"
  else .ok text

-- All labels but the last one, each with the dot that ends it.
def ended : List (List Char) → Except String (List Char)
  | first :: second :: rest => do return (← label first) ++ '.' :: (← ended (second :: rest))
  | _ => .ok []

def last (labels : List (List Char)) : Except String (List Char) :=
  match labels.getLast? with
  | none => .ok []
  | some [] => .ok []
  | some text => label text

end Domain

end StubForge
