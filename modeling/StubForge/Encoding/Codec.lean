import StubForge.Encoding.AsciiForms
import StubForge.Encoding.Table

set_option autoImplicit false

/-!
Character encodings by name, and writing a text in an encoding. A name may be spelled with any case
and punctuation. Some names stand for encodings of bytes, which no text file can have.
-/

namespace StubForge

inductive ByteOrder where
  | little
  | big
  deriving DecidableEq, Repr

inductive Codec where
  | utf8
  | utf8Marked
  | utf16 (order : ByteOrder) (marked : Bool)
  | utf32 (order : ByteOrder) (marked : Bool)
  | latin1
  | ascii
  | charmap (table : List Char)
  | escaped
  | rawEscaped
  -- An encoding of several bytes per character, of which only the ASCII part is known.
  | multibyte (name : String)
  | utf7
  | punycode
  | domain
  -- An encoding that no text has.
  | undefined
  | binary
  deriving DecidableEq, Repr

inductive EncodeFault where
  -- Characters from `start` on, before `stop`, that a codec lacks.
  | lacking (codec : String) (start stop : Nat) (first : Char) (reason : String)
  | refused (reason : String)
  deriving DecidableEq, Repr

namespace EncodeFault

def charText (c : Char) : String :=
  let n := c.toNat
  if n < 0x100 then "\\x" ++ String.ofList (Text.hexDigits 2 n)
  else if n < 0x10000 then "\\u" ++ String.ofList (Text.hexDigits 4 n)
  else "\\U" ++ String.ofList (Text.hexDigits 8 n)

def message : EncodeFault → String
  | .lacking codec start stop first reason =>
      let place := if stop = start + 1 then
          "character '" ++ charText first ++ "' in position " ++ Text.natText start
        else "characters in position " ++ Text.natText start ++ "-" ++ Text.natText (stop - 1)
      "'" ++ codec ++ "' codec can't encode " ++ place ++ ": " ++ reason
  | .refused reason => reason

end EncodeFault

namespace Codec

-- Runs of other characters than ASCII letters, digits and dots become one underscore.
def normalizeFrom (pending : Bool) (started : Bool) : List Char → List Char
  | [] => []
  | c :: rest =>
      if c.isAlphanum || c = '.' then
        (if pending && started then ['_'] else []) ++ c.toLower :: normalizeFrom false true rest
      else normalizeFrom true started rest

def normalize (name : String) : String := String.ofList (normalizeFrom false false name.toList)

def undottedName (name : String) : String :=
  String.ofList (name.toList.map fun c => if c = '.' then '_' else c)

def aliased? (name : String) : Option String :=
  (Encoding.Table.aliases.find? fun entry => entry.1 == name).map (·.2)

def properName? (name : String) : Option String :=
  let plain := normalize name
  match aliased? plain <|> aliased? (undottedName plain) with
  | some proper => some proper
  | none => if Encoding.Table.names.contains plain then some plain else none

def binaryNames : List String :=
  ["base64_codec", "bz2_codec", "hex_codec", "quopri_codec", "rot_13", "uu_codec", "zlib_codec"]

def table? (proper : String) : Option (List Char) :=
  match Encoding.Table.upperHalves.find? fun entry => entry.1 == proper with
  | some (_, upper) => some ((List.range 128).map Char.ofNat ++ upper.toList)
  | none => (Encoding.Table.fullTables.find? fun entry => entry.1 == proper).map (·.2.toList)

def ofProperName (proper : String) : Codec :=
  match proper with
  | "utf_8" => .utf8
  | "utf_8_sig" => .utf8Marked
  | "utf_16" => .utf16 .little true
  | "utf_16_le" => .utf16 .little false
  | "utf_16_be" => .utf16 .big false
  | "utf_32" => .utf32 .little true
  | "utf_32_le" => .utf32 .little false
  | "utf_32_be" => .utf32 .big false
  | "latin_1" => .latin1
  | "iso8859_1" => .latin1
  | "charmap" => .latin1
  | "ascii" => .ascii
  | "unicode_escape" => .escaped
  | "raw_unicode_escape" => .rawEscaped
  | "utf_7" => .utf7
  | "punycode" => .punycode
  | "idna" => .domain
  | "undefined" => .undefined
  | _ =>
      if binaryNames.contains proper then .binary
      else
        match table? proper with
        | some table => .charmap table
        | none => .multibyte proper

def lookup? (name : String) : Option Codec := (properName? name).map ofProperName

def isText : Codec → Bool
  | .binary => false
  | _ => true

def noCharacter : Char := '\uffff'

-- The last place of a character in a table.
def placeIn (c : Char) (table : List Char) : Option Nat :=
  if c = noCharacter then none
  else (table.reverse.findIdx? (· == c)).map fun i => table.length - 1 - i

def wordBytes (order : ByteOrder) (size n : Nat) : List UInt8 :=
  let bytes := (List.range size).map fun k => UInt8.ofNat (n / Nat.pow 256 k % 256)
  match order with
  | .little => bytes
  | .big => bytes.reverse

def utf16Bytes (order : ByteOrder) (c : Char) : List UInt8 := (utf16Units c).flatMap (wordBytes order 2)

def escapedBytes (c : Char) : List UInt8 :=
  let n := c.toNat
  if c = '\n' then Utf8.encode ['\\', 'n']
  else if c = '\r' then Utf8.encode ['\\', 'r']
  else if c = '\t' then Utf8.encode ['\\', 't']
  else if c = '\\' then Utf8.encode ['\\', '\\']
  else if 32 ≤ n && n < 127 then [UInt8.ofNat n]
  else Utf8.encode (EncodeFault.charText c).toList

def rawEscapedBytes (c : Char) : List UInt8 :=
  if c.toNat < 256 then [UInt8.ofNat c.toNat] else Utf8.encode (EncodeFault.charText c).toList

-- The ASCII characters that an encoding of several bytes per character does not write as themselves.
def ownForms (name : String) : List (Char × List UInt8) :=
  match name with
  | "hz" => [('~', [0x7e, 0x7e])]
  | "shift_jis_2004" => [('\\', [0x81, 0x5f]), ('~', [0x81, 0xb0])]
  | "shift_jisx0213" => [('\\', [0x81, 0x5f]), ('~', [0x81, 0xb0])]
  | _ => []

def charBytes? : Codec → Char → Option (List UInt8)
  | .utf8, c => some (Utf8.encodeChar c)
  | .utf8Marked, c => some (Utf8.encodeChar c)
  | .utf16 order _, c => some (utf16Bytes order c)
  | .utf32 order _, c => some (wordBytes order 4 c.toNat)
  | .latin1, c => if c.toNat < 256 then some [UInt8.ofNat c.toNat] else none
  | .ascii, c => if c.toNat < 128 then some [UInt8.ofNat c.toNat] else none
  | .charmap table, c => (placeIn c table).map fun i => [UInt8.ofNat i]
  | .escaped, c => some (escapedBytes c)
  | .rawEscaped, c => some (rawEscapedBytes c)
  | .multibyte name, c =>
      (ownForms name).lookup c <|> if c.toNat < 128 then some [UInt8.ofNat c.toNat] else none
  | _, _ => none

-- What stands at the start of every file in the encoding.
def signature : Codec → List UInt8
  | .utf8Marked => Utf8.byteMark
  | .utf16 order true => wordBytes order 2 0xfeff
  | .utf32 order true => wordBytes order 4 0xfeff
  | _ => []

def faultName : Codec → String
  | .latin1 => "latin-1"
  | .ascii => "ascii"
  | .multibyte name => name
  | _ => "charmap"

def faultReason : Codec → String
  | .latin1 => "ordinal not in range(256)"
  | .ascii => "ordinal not in range(128)"
  | .multibyte _ => "illegal multibyte sequence"
  | _ => "character maps to <undefined>"

-- Several characters in a row that an encoding lacks are reported together, except by encodings of several
-- bytes per character.
def faultLength (codec : Codec) (rest : List Char) : Nat :=
  match codec with
  | .multibyte _ => 1
  | _ => (rest.takeWhile fun c => (codec.charBytes? c).isNone).length

def encodeFrom (codec : Codec) (position : Nat) : List Char → Except EncodeFault (List UInt8)
  | [] => .ok []
  | c :: rest =>
      match codec.charBytes? c with
      | some bytes => (encodeFrom codec (position + 1) rest).map (bytes ++ ·)
      | none =>
          .error (.lacking codec.faultName position (position + codec.faultLength (c :: rest)) c codec.faultReason)

-- The bytes of a text as a whole.
def encode (codec : Codec) (text : String) : Except EncodeFault (List UInt8) :=
  match codec with
  | .utf7 => .ok (Utf7.encode text.toList)
  | .punycode => .ok (Punycode.encode text.toList)
  | .domain =>
      let labels := Domain.labels text.toList
      ((do return Utf8.encode ((← Domain.ended labels) ++ (← Domain.last labels))).mapError EncodeFault.refused)
  | .undefined => .error (.refused "undefined encoding")
  | codec => (codec.encodeFrom 0 text.toList).map (codec.signature ++ ·)

-- The bytes that come to stand in a file when a text is written into it. The last label of a name waits for its end,
-- which a file never gives.
def written (codec : Codec) (text : String) : Except EncodeFault (List UInt8) :=
  match codec with
  | .domain => ((Domain.ended (Domain.labels text.toList)).map Utf8.encode).mapError EncodeFault.refused
  | codec => codec.encode text

-- The characters of bytes in an encoding of one byte per character or in UTF-8.
def decode? (codec : Codec) (bytes : List UInt8) : Option (List Char) :=
  match codec with
  | .utf8 => (Utf8.decode bytes).toOption
  | .utf8Marked =>
      (Utf8.decode (if Utf8.byteMark.isPrefixOf bytes then bytes.drop 3 else bytes)).toOption
  | .latin1 => some (bytes.map fun b => Char.ofNat b.toNat)
  | .rawEscaped => some (bytes.map fun b => Char.ofNat b.toNat)
  | .charmap table =>
      let chars := bytes.map fun b => table.getD b.toNat noCharacter
      if chars.contains noCharacter then none else some chars
  | .utf16 .. => none
  | .utf32 .. => none
  | .punycode => none
  | .undefined => none
  | .binary => none
  | _ => if bytes.all (·.toNat < 128) then some (bytes.map fun b => Char.ofNat b.toNat) else none

end Codec

end StubForge
