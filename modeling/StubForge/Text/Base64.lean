set_option autoImplicit false

/-!
Bytes written with 64 digits. Reading skips all other characters, and stops at the padding that
completes a group.
-/

namespace StubForge.Text

def base64Value? (c : Char) : Option Nat :=
  if 'A' ≤ c && c ≤ 'Z' then some (c.toNat - 65)
  else if 'a' ≤ c && c ≤ 'z' then some (c.toNat - 71)
  else if c.isDigit then some (c.toNat + 4)
  else if c = '+' then some 62
  else if c = '/' then some 63
  else none

def base64Group : List Nat → List UInt8
  | a :: b :: rest =>
      let first := UInt8.ofNat (a * 4 + b / 16)
      match rest with
      | [] => [first]
      | [c] => [first, UInt8.ofNat (b % 16 * 16 + c / 4)]
      | c :: d :: _ => [first, UInt8.ofNat (b % 16 * 16 + c / 4), UInt8.ofNat (c % 4 * 64 + d)]
  | _ => []

-- Reads on with the digits of an unfinished group and the padding seen since the last digit.
def readBase64From (group : List Nat) (padding : Nat) : List Char → Option (List UInt8)
  | [] => if group.isEmpty then some [] else none
  | c :: rest =>
      if c = '=' then
        if 2 ≤ group.length then
          if 4 ≤ group.length + padding + 1 then some (base64Group group)
          else readBase64From group (padding + 1) rest
        else readBase64From group padding rest
      else
        match base64Value? c with
        | none => readBase64From group padding rest
        | some digit =>
            let group := group ++ [digit]
            if group.length = 4 then (readBase64From [] 0 rest).map (base64Group group ++ ·)
            else readBase64From group 0 rest

def readBase64 (chars : List Char) : Option (List UInt8) := readBase64From [] 0 chars

end StubForge.Text
