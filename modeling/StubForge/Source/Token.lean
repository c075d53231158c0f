import StubForge.Encoding.Codec
import StubForge.Text.Char

set_option autoImplicit false

/-!
Tokens of module sources: decoding the bytes, and splitting the text into names, literals and
operators, with the nesting of blocks made explicit. `none` means that the source has no tokens.
-/

namespace StubForge.Source

structure TextLiteral where
  isBytes : Bool
  isRaw : Bool
  isFormat : Bool
  body : List Char
  deriving DecidableEq, Repr

inductive Token where
  | name (text : String)
  -- The digits are those of a plain integer; other numbers keep none.
  | number (digits : List Char) (imaginary : Bool)
  | text (literal : TextLiteral)
  | op (text : String)
  | newline
  | indent
  | dedent
  deriving DecidableEq, Repr

/-! ### Bytes -/

def isSpecBlank (c : UInt8) : Bool := c = 32 || c = 9 || c = 12

def isSpecChar (b : UInt8) : Bool :=
  let c := Char.ofNat b.toNat
  b.toNat < 128 && (c.isAlphanum || c = '-' || c = '_' || c = '.')

def asciiBytes (s : String) : List UInt8 := s.toList.map fun c => UInt8.ofNat c.toNat

def namedEncoding : List UInt8 → Option (List UInt8)
  | [] => none
  | b :: rest =>
      if (asciiBytes "coding:").isPrefixOf (b :: rest) || (asciiBytes "coding=").isPrefixOf (b :: rest) then
        let spec := (((b :: rest).drop 7).dropWhile fun c => c = 32 || c = 9).takeWhile isSpecChar
        if spec.isEmpty then namedEncoding rest else some spec
      else namedEncoding rest

inductive LineSpec where
  | encoding (name : String)
  -- The line is blank or a comment, so the next one may name the encoding.
  | silent
  | code
  deriving DecidableEq, Repr

def lineSpec (line : List UInt8) : LineSpec :=
  match line.dropWhile isSpecBlank with
  | [] => .silent
  | b :: rest =>
      if b = 35 then
        match namedEncoding rest with
        | some spec => .encoding (String.ofList (spec.map fun c => Char.ofNat c.toNat))
        | none => .silent
      else .code

def plainSpec (name : String) : String :=
  let lower := String.ofList ((name.toList.take 12).map fun c => if c = '_' then '-' else c.toLower)
  let isOr := fun (base : String) => lower == base || (base ++ "-").isPrefixOf lower
  if isOr "utf-8" then "utf-8"
  else if isOr "latin-1" || isOr "iso-8859-1" || isOr "iso-latin-1" then "iso-8859-1"
  else name
where
  String.isPrefixOf (a b : String) : Bool := a.toList.isPrefixOf b.toList

def unifyByteNewlines : List UInt8 → List UInt8
  | [] => []
  | 13 :: 10 :: rest => 10 :: unifyByteNewlines rest
  | 13 :: rest => 10 :: unifyByteNewlines rest
  | b :: rest => b :: unifyByteNewlines rest

def endWithNewline (bytes : List UInt8) : List UInt8 :=
  if bytes.getLast? = some 10 || bytes.isEmpty then bytes else bytes ++ [10]

-- The text of a source. Bytes at fault are left as null characters, which no token but a comment can hold.
def decode? (bytes : List UInt8) : Option (List Char) :=
  if bytes.contains 0 then none
  else
    let bytes := endWithNewline (unifyByteNewlines bytes)
    let marked := Utf8.byteMark.isPrefixOf bytes
    let body := if marked then bytes.drop 3 else bytes
    let first := body.takeWhile (· ≠ 10)
    let second := (body.drop (first.length + 1)).takeWhile (· ≠ 10)
    let spec := match lineSpec first with
      | .encoding name => some name
      | .code => none
      | .silent =>
          match lineSpec second with
          | .encoding name => some name
          | _ => none
    match spec with
    | none => some (Utf8.decodeLeniently 0 body)
    | some name =>
        let plain := plainSpec name
        if plain = "utf-8" then some (Utf8.decodeLeniently 0 body)
        else if marked then none
        else (Codec.lookup? plain).bind fun codec => codec.decode? body

/-! ### Tokens -/

def isNameStart (c : Char) : Bool := c.isAlpha || c = '_' || 128 ≤ c.toNat

def isNameChar (c : Char) : Bool := c.isAlphanum || c = '_' || 128 ≤ c.toNat

def digitsRun (isDigit : Char → Bool) : List Char → Option (List Char × List Char)
  | [] => none
  | c :: '_' :: rest =>
      if isDigit c then (digitsRun isDigit rest).map fun (digits, r) => (c :: digits, r) else none
  | c :: rest =>
      if !isDigit c then none
      else if (rest.head?.map isDigit).getD false then
        (digitsRun isDigit rest).map fun (digits, r) => (c :: digits, r)
      else some ([c], rest)

def wordsAfterNumber : List (List Char) :=
  ["and", "else", "for", "if", "in", "is", "or", "not"].map String.toList

-- Nothing that could belong to a name follows a number, except words that may follow it.
def endsNumber (rest : List Char) : Bool :=
  match rest with
  | [] => true
  | c :: _ => wordsAfterNumber.any (·.isPrefixOf rest) || !isNameChar c

def isHex (c : Char) : Bool := c.isDigit || ('a' ≤ c && c ≤ 'f') || ('A' ≤ c && c ≤ 'F')

def lexRadix (isDigit : Char → Bool) (s : List Char) : Option (List Char) :=
  let body := match s with
    | '_' :: rest => rest
    | rest => rest
  match digitsRun isDigit body with
  | some (_, rest) => if endsNumber rest && !(rest.head?.map Char.isDigit).getD false then some rest else none
  | none => none

def lexExponent (s : List Char) : Option (List Char × Bool) :=
  match s with
  | e :: rest =>
      if e = 'e' || e = 'E' then
        match rest with
        | '+' :: more => (digitsRun Char.isDigit more).bind fun (_, r) => lexImaginary r true
        | '-' :: more => (digitsRun Char.isDigit more).bind fun (_, r) => lexImaginary r true
        | more =>
            match digitsRun Char.isDigit more with
            | some (_, r) => lexImaginary r true
            | none => if endsNumber s then some (s, false) else none
      else lexImaginary s false
  | [] => some ([], false)
where
  lexImaginary (s : List Char) (inexact : Bool) : Option (List Char × Bool) :=
    match s with
    | j :: rest =>
        if j = 'j' || j = 'J' then if endsNumber rest then some (rest, true) else none
        else if endsNumber s then some (s, inexact) else none
    | [] => some ([], inexact)

def lexFraction (s : List Char) : Option (List Char) :=
  match s with
  | c :: _ =>
      if c.isDigit then
        (digitsRun Char.isDigit s).bind fun (_, r) => (lexExponent r).map (·.1)
      else (lexExponent s).map (·.1)
  | [] => some []

def lexNumber (s : List Char) : Option (List Char × List Char) :=
  let other := fun (rest : Option (List Char)) => rest.map fun r => ([], r)
  match s with
  | '0' :: x :: rest =>
      if x = 'x' || x = 'X' then other (lexRadix isHex rest)
      else if x = 'o' || x = 'O' then other (lexRadix (fun c => '0' ≤ c && c ≤ '7') rest)
      else if x = 'b' || x = 'B' then other (lexRadix (fun c => c = '0' || c = '1') rest)
      else decimal s
  | _ => decimal s
where
  decimal (s : List Char) : Option (List Char × List Char) :=
    match digitsRun Char.isDigit s with
    | none => none
    | some (digits, rest) =>
        let leadingZero := digits.head? = some '0' && digits.any (· ≠ '0')
        match rest with
        | '.' :: more => (lexFraction more).map fun r => ([], r)
        | '_' :: _ => none
        | _ =>
            match lexExponent rest with
            | none => none
            | some (r, inexact) =>
                if inexact then some ([], r) else if leadingZero then none else some (digits, r)

structure TextHead where
  bytes : Bool := false
  raw : Bool := false
  unicode : Bool := false
  format : Bool := false

def textHead (head : TextHead) : List Char → Option (TextHead × List Char)
  | [] => none
  | c :: rest =>
      let next : Option TextHead :=
        if (c = 'b' || c = 'B') && !(head.bytes || head.unicode || head.format) then
          some { head with bytes := true }
        else if (c = 'u' || c = 'U') && !(head.bytes || head.unicode || head.raw || head.format) then
          some { head with unicode := true }
        else if (c = 'r' || c = 'R') && !(head.raw || head.unicode) then some { head with raw := true }
        else if (c = 'f' || c = 'F') && !(head.format || head.bytes || head.unicode) then
          some { head with format := true }
        else none
      match next with
      | none => none
      | some head =>
          match rest with
          | '\'' :: _ => some (head, rest)
          | '"' :: _ => some (head, rest)
          | _ => textHead head rest

def shortText (quote : Char) : List Char → Option (List Char × List Char)
  | [] => none
  | '\\' :: c :: rest => (shortText quote rest).map fun (body, r) => ('\\' :: c :: body, r)
  | c :: rest =>
      if c = '\n' then none
      else if c = quote then some ([], rest)
      else (shortText quote rest).map fun (body, r) => (c :: body, r)

def longText (quote : Char) : List Char → Option (List Char × List Char)
  | [] => none
  | '\\' :: c :: rest => (longText quote rest).map fun (body, r) => ('\\' :: c :: body, r)
  | a :: b :: c :: rest =>
      if a = quote && b = quote && c = quote then some ([], rest)
      else (longText quote (b :: c :: rest)).map fun (body, r) => (a :: body, r)
  | _ => none

def lexText (s : List Char) : Option (List Char × List Char) :=
  match s with
  | a :: b :: c :: rest =>
      if a = b && b = c then longText a rest else shortText a (b :: c :: rest)
  | a :: rest => shortText a rest
  | [] => none

def operators : List (List Char) :=
  ["**=", "//=", ">>=", "<<=", "...", "!=", "->", "**", "//", ">>", "<<", "<=", ">=", "==", ":=", "+=",
    "-=", "*=", "/=", "%=", "&=", "|=", "^=", "@=", "+", "-", "*", "/", "%", "&", "|", "^", "~", "@",
    "<", ">", "=", "(", ")", "[", "]", "\x7b", "\x7d", ",", ":", ".", ";"].map String.toList

def closing : Char → Option Char
  | '(' => some ')'
  | '[' => some ']'
  | '\x7b' => some '\x7d'
  | _ => none

structure LexState where
  -- Columns of the open blocks, innermost first, counted in two ways: tabs reach to the next multiple of
  -- eight, or count as one.
  indents : List (Nat × Nat) := [(0, 0)]
  brackets : List Char := []
  lineStart : Bool := true
  done : List Token := []

def indentation (column flat : Nat) : List Char → Option ((Nat × Nat) × List Char)
  | [] => some ((column, flat), [])
  | ' ' :: rest => indentation (column + 1) (flat + 1) rest
  | '\t' :: rest => indentation ((column / 8 + 1) * 8) (flat + 1) rest
  | '\x0c' :: rest => indentation 0 0 rest
  | '\\' :: '\n' :: rest =>
      if rest.isEmpty then none
      else
        let first := (column, flat)
        (indentation column flat rest).map fun (found, r) => (if column = 0 then found else first, r)
  | '\\' :: _ => none
  | s => some ((column, flat), s)

def indentLimit : Nat := 100
def bracketLimit : Nat := 200

-- Closes blocks down to a column; the column must be that of an open block in both ways of counting.
def closeBlocks (column flat : Nat) : List (Nat × Nat) → List Token → Option (List (Nat × Nat) × List Token)
  | [], _ => none
  | (c, f) :: outer, done =>
      if column < c then closeBlocks column flat outer (.dedent :: done)
      else if column = c && flat = f then some ((c, f) :: outer, done)
      else none

def enterLine (state : LexState) (column flat : Nat) : Option LexState :=
  match state.indents with
  | [] => none
  | (c, f) :: _ =>
      if column = c then if flat = f then some state else none
      else if c < column then
        if flat ≤ f || indentLimit ≤ state.indents.length then none
        else some
          { state with indents := (column, flat) :: state.indents, done := .indent :: state.done }
      else
        (closeBlocks column flat state.indents state.done).map fun (indents, done) =>
          { state with indents, done }

def skipComment (s : List Char) : List Char := s.dropWhile (· ≠ '\n')

def pushToken (state : LexState) (token : Token) : LexState := { state with done := token :: state.done }

def lexOperator (state : LexState) (s : List Char) : Option (LexState × List Char) :=
  match operators.find? (·.isPrefixOf s) with
  | none => none
  | some op =>
      let state' := pushToken state (.op (String.ofList op))
      let rest := s.drop op.length
      match op with
      | [c] =>
          match closing c with
          | some close =>
              if bracketLimit ≤ state.brackets.length then none
              else some ({ state' with brackets := close :: state.brackets }, rest)
          | none =>
              if c = ')' || c = ']' || c = '\x7d' then
                match state.brackets with
                | open' :: outer => if open' = c then some ({ state' with brackets := outer }, rest) else none
                | [] => none
              else some (state', rest)
      | _ => some (state', rest)

def lexWord (state : LexState) (s : List Char) : Option (LexState × List Char) :=
  let word := s.takeWhile isNameChar
  if Text.isIdentifierChars word then
    some (pushToken state (.name (String.ofList word)), s.drop word.length)
  else none

def lexToken (state : LexState) (s : List Char) : Option (LexState × List Char) :=
  match s with
  | [] => some (state, [])
  | c :: rest =>
      if c = ' ' || c = '\t' || c = '\x0c' then some (state, rest)
      else if c = '#' then some (state, skipComment rest)
      else if c = '\n' then
        if state.brackets.isEmpty then some ({ pushToken state .newline with lineStart := true }, rest)
        else some ({ state with lineStart := true }, rest)
      else if c = '\\' then
        match rest with
        | '\n' :: more => if more.isEmpty then none else some (state, more)
        | _ => none
      else if c = '\'' || c = '"' then
        (lexText s).map fun (body, r) =>
          (pushToken state (.text { isBytes := false, isRaw := false, isFormat := false, body }), r)
      else if isNameStart c then
        match textHead {} s with
        | some (head, quoted) =>
            (lexText quoted).map fun (body, r) =>
              let literal :=
                { isBytes := head.bytes, isRaw := head.raw, isFormat := head.format, body }
              (pushToken state (.text literal), r)
        | none => lexWord state s
      else if c.isDigit || (c = '.' && (rest.head?.map Char.isDigit).getD false) then
        let found := if c = '.' then (lexFraction rest).map fun r => ([], r) else lexNumber s
        found.map fun (digits, r) =>
          let last := (s.take (s.length - r.length)).getLast?
          (pushToken state (.number digits (last = some 'j' || last = some 'J')), r)
      else lexOperator state s

def lexStep (state : LexState) (s : List Char) : Option (LexState × List Char) :=
  if state.lineStart then
    match indentation 0 0 s with
    | none => none
    | some ((column, flat), rest) =>
        match rest with
        | '\n' :: more => some (state, more)
        | '#' :: more => some (state, (skipComment more).drop 1)
        | _ =>
            let state := { state with lineStart := false }
            if !state.brackets.isEmpty then some (state, rest)
            else if rest.isEmpty then some (state, rest)
            else (enterLine state column flat).map fun state => (state, rest)
  else lexToken state s

def lexFrom : Nat → LexState → List Char → Option LexState
  | 0, _, _ => none
  | fuel + 1, state, s =>
      if s.isEmpty then some state
      else
        match lexStep state s with
        | some (state, rest) => lexFrom fuel state rest
        | none => none

def tokens? (text : List Char) : Option (List Token) :=
  match lexFrom (2 * text.length + 2) {} text with
  | none => none
  | some state =>
      if !state.brackets.isEmpty then none
      else
        let closers := List.replicate (state.indents.length - 1) Token.dedent
        some (state.done.reverse ++ closers)

end StubForge.Source
