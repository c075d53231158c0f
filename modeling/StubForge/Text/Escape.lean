import StubForge.Text.Char

set_option autoImplicit false

/-!
Backslash escapes in quoted texts: line ends, control characters, and code points by number.
-/

namespace StubForge.Text

def hexValue? (c : Char) : Option Nat :=
  if c.isDigit then some (c.toNat - 48)
  else if 'a' ≤ c && c ≤ 'f' then some (c.toNat - 87)
  else if 'A' ≤ c && c ≤ 'F' then some (c.toNat - 55)
  else none

def hexNumber? (digits : List Char) : Option Nat :=
  digits.foldlM (fun total c => (hexValue? c).map fun value => 16 * total + value) 0

-- A code point of a fixed number of hexadecimal digits; halves of surrogate pairs are admitted.
def codePoint? (digits : List Char) (width : Nat) : Option Char :=
  if digits.length ≠ width then none
  else
    match hexNumber? digits with
    | some n =>
        if 0x10ffff < n then none
        else if 0xd800 ≤ n && n ≤ 0xdfff then some '\ufffd'
        else some (Char.ofNat n)
    | none => none

def isOctal (c : Char) : Bool := '0' ≤ c && c ≤ '7'

def octalNumber (digits : List Char) : Nat :=
  digits.foldl (fun total c => 8 * total + (c.toNat - 48)) 0

def isCharacterName (name : List Char) : Bool :=
  !name.isEmpty && name.all fun c => c.isAlphanum || c = ' ' || c = '-'

def unescapeOne (isBytes : Bool) : List Char → Option (List Char × List Char)
  | [] => some (['\\'], [])
  | c :: rest =>
      let plain := fun (made : Char) => some ([made], rest)
      let coded := fun (width : Nat) =>
        (codePoint? (rest.take width) width).map fun made => ([made], rest.drop width)
      if c = '\n' then some ([], rest)
      else if c = '\\' || c = '\'' || c = '"' then plain c
      else if c = 'a' then plain '\x07'
      else if c = 'b' then plain '\x08'
      else if c = 'f' then plain '\x0c'
      else if c = 'n' then plain '\n'
      else if c = 'r' then plain '\r'
      else if c = 't' then plain '\t'
      else if c = 'v' then plain '\x0b'
      else if isOctal c then
        let digits := (c :: rest.take 2).takeWhile isOctal
        some ([Char.ofNat (octalNumber digits)], (c :: rest).drop digits.length)
      else if c = 'x' then coded 2
      else if isBytes then some (['\\', c], rest)
      else if c = 'u' then coded 4
      else if c = 'U' then coded 8
      else if c = 'N' then
        match rest with
        | '\x7b' :: more =>
            let name := more.takeWhile (· ≠ '\x7d')
            let after := more.drop name.length
            if isCharacterName name && !after.isEmpty then some (['\ufffd'], after.drop 1) else none
        | _ => none
      else some (['\\', c], rest)

def unescapeFrom (isBytes : Bool) : Nat → List Char → Option (List Char)
  | 0, _ => none
  | _, [] => some []
  | fuel + 1, '\\' :: rest => do
      let (made, rest) ← unescapeOne isBytes rest
      return made ++ (← unescapeFrom isBytes fuel rest)
  | fuel + 1, c :: rest => (unescapeFrom isBytes fuel rest).map (c :: ·)

-- Replaces the escapes of a text; `none` if one of them is malformed. Texts of bytes have no escapes for code
-- points beyond a byte.
def unescape (isBytes : Bool) (body : List Char) : Option (List Char) :=
  unescapeFrom isBytes (body.length + 1) body

end StubForge.Text
