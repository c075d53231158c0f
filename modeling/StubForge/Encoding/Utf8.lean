import StubForge.Text.Integer

set_option autoImplicit false

/-!
UTF-8: bytes of a character, and reading bytes with the exact place and kind of the first fault.
-/

namespace StubForge

structure DecodeFault where
  codec : String
  -- The bytes from `start` on, before `stop`, are at fault.
  start : Nat
  stop : Nat
  byte : UInt8
  reason : String
  deriving DecidableEq, Repr

def DecodeFault.message (fault : DecodeFault) : String :=
  let place := if fault.stop = fault.start + 1 then
      "byte 0x" ++ String.ofList (Text.hexDigits 2 fault.byte.toNat) ++ " in position "
        ++ Text.natText fault.start
    else "bytes in position " ++ Text.natText fault.start ++ "-" ++ Text.natText (fault.stop - 1)
  "'" ++ fault.codec ++ "' codec can't decode " ++ place ++ ": " ++ fault.reason

namespace Utf8

def encodeChar (c : Char) : List UInt8 :=
  let n := c.toNat
  let low := fun (k : Nat) => UInt8.ofNat (0x80 + n / Nat.pow 64 k % 64)
  if n < 0x80 then [UInt8.ofNat n]
  else if n < 0x800 then [UInt8.ofNat (0xc0 + n / 64), low 0]
  else if n < 0x10000 then [UInt8.ofNat (0xe0 + n / 4096), low 1, low 0]
  else [UInt8.ofNat (0xf0 + n / 262144), low 2, low 1, low 0]

def encode (s : List Char) : List UInt8 := s.flatMap encodeChar

def isContinuation (b : UInt8) : Bool := b.toNat / 64 = 2

def bits (b : UInt8) : Nat := b.toNat % 64

-- The second byte may follow the first one: no overlong form, no surrogate, nothing too large.
def followsLead (lead second : UInt8) : Bool :=
  let a := lead.toNat
  let b := second.toNat
  isContinuation second
    && (a != 0xe0 || 0xa0 ≤ b) && (a != 0xed || b < 0xa0)
    && (a != 0xf0 || 0x90 ≤ b) && (a != 0xf4 || b < 0x90)

inductive Step where
  | char (c : Char) (size : Nat)
  | invalidStart
  | invalidContinuation (size : Nat)
  | unexpectedEnd
  deriving DecidableEq, Repr

def step (a : UInt8) (rest : List UInt8) : Step :=
  let n := a.toNat
  if n < 0x80 then .char (Char.ofNat n) 1
  else if n < 0xc2 || 0xf5 ≤ n then .invalidStart
  else if n < 0xe0 then
    match rest with
    | [] => .unexpectedEnd
    | b :: _ =>
        if isContinuation b then .char (Char.ofNat (n % 32 * 64 + bits b)) 2
        else .invalidContinuation 1
  else if n < 0xf0 then
    match rest with
    | [] => .unexpectedEnd
    | b :: more =>
        if !followsLead a b then .invalidContinuation 1
        else
          match more with
          | [] => .unexpectedEnd
          | c :: _ =>
              if isContinuation c then
                .char (Char.ofNat ((n % 16 * 64 + bits b) * 64 + bits c)) 3
              else .invalidContinuation 2
  else
    match rest with
    | [] => .unexpectedEnd
    | b :: more =>
        if !followsLead a b then .invalidContinuation 1
        else
          match more with
          | [] => .unexpectedEnd
          | c :: more =>
              if !isContinuation c then .invalidContinuation 2
              else
                match more with
                | [] => .unexpectedEnd
                | d :: _ =>
                    if isContinuation d then
                      .char (Char.ofNat (((n % 8 * 64 + bits b) * 64 + bits c) * 64 + bits d)) 4
                    else .invalidContinuation 3

-- Reads bytes from a position on; `skip` bytes belong to the character before.
def decodeFrom (position : Nat) : Nat → List UInt8 → Except DecodeFault (List Char)
  | _, [] => .ok []
  | skip + 1, _ :: rest => decodeFrom (position + 1) skip rest
  | 0, a :: rest =>
      let fault := fun (size : Nat) (reason : String) =>
        Except.error { codec := "utf-8", start := position, stop := position + size, byte := a, reason }
      match step a rest with
      | .char c size => (decodeFrom (position + 1) (size - 1) rest).map (c :: ·)
      | .invalidStart => fault 1 "invalid start byte"
      | .invalidContinuation size => fault size "invalid continuation byte"
      | .unexpectedEnd => fault (rest.length + 1) "unexpected end of data"

def decode (bytes : List UInt8) : Except DecodeFault (List Char) := decodeFrom 0 0 bytes

-- Reads bytes, with the null character for each byte at fault.
def decodeLeniently : Nat → List UInt8 → List Char
  | _, [] => []
  | skip + 1, _ :: rest => decodeLeniently skip rest
  | 0, a :: rest =>
      match step a rest with
      | .char c size => c :: decodeLeniently (size - 1) rest
      | _ => '\x00' :: decodeLeniently 0 rest

def byteMark : List UInt8 := [0xef, 0xbb, 0xbf]

end Utf8

end StubForge
