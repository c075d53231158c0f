import StubForge.Number
import StubForge.Text.Escape
import StubForge.Text.Quoted

set_option autoImplicit false

/-!
Tokens of templates: literal text, the marks around outputs and tags, and the words and operators
between them. Comments and the white space that marks ask to drop do not become tokens. Each token
knows its line; a place that cannot be read is a token of its own.
-/

namespace StubForge.Template

inductive Piece where
  | data (text : String)
  | openOutput
  | closeOutput
  | openTag
  | closeTag
  | name (text : String)
  | text (value : String)
  | int (value : Nat)
  | float (value : Real64)
  | op (text : String)
  | bad
  deriving DecidableEq, Repr

structure Token where
  line : Nat
  piece : Piece
  deriving DecidableEq, Repr

def lineCount (s : List Char) : Nat := s.count '\n'

def endsLine (s : List Char) : Bool := s.getLast? = some '\n'

inductive Sign where
  | none
  | strip
  | keep
  deriving DecidableEq, Repr

def takeSign : List Char → Sign × List Char
  | '-' :: rest => (.strip, rest)
  | '+' :: rest => (.keep, rest)
  | rest => (.none, rest)

-- The text before the first mark, and the second character of the mark with what follows it.
def breakAtMark : List Char → List Char × Option (Char × List Char)
  | [] => ([], none)
  | [c] => ([c], none)
  | a :: b :: rest =>
      if a = '\x7b' && (b = '\x7b' || b = '%' || b = '#') then ([], some (b, rest))
      else
        let (before, found) := breakAtMark (b :: rest)
        (a :: before, found)

def takeBlanks (s : List Char) : List Char × List Char :=
  (s.takeWhile Text.isBlank, s.dropWhile Text.isBlank)

def takeWord? (word : String) (s : List Char) : Option (List Char × List Char) :=
  let (before, rest) := takeBlanks s
  match Text.stripLeading? word.toList rest with
  | some rest =>
      let (after, rest) := takeBlanks rest
      some (before ++ word.toList ++ after, rest)
  | none => none

-- The end of a tag; one line end behind it belongs to it.
def takeTagEnd? : List Char → Option (List Char × List Char)
  | '+' :: '%' :: '\x7d' :: rest => some ("+%\x7d".toList, rest)
  | '-' :: '%' :: '\x7d' :: rest =>
      let (blanks, rest) := takeBlanks rest
      some ("-%\x7d".toList ++ blanks, rest)
  | '%' :: '\x7d' :: '\n' :: rest => some ("%\x7d\n".toList, rest)
  | '%' :: '\x7d' :: rest => some ("%\x7d".toList, rest)
  | _ => none

def takeOutputEnd? : List Char → Option (List Char × List Char)
  | '-' :: '\x7d' :: '\x7d' :: rest =>
      let (blanks, rest) := takeBlanks rest
      some ("-\x7d\x7d".toList ++ blanks, rest)
  | '\x7d' :: '\x7d' :: rest => some ("\x7d\x7d".toList, rest)
  | _ => none

def takeCommentEnd? : List Char → Option (List Char × List Char)
  | '+' :: '#' :: '\x7d' :: rest => some ("+#\x7d".toList, rest)
  | '-' :: '#' :: '\x7d' :: rest =>
      let (blanks, rest) := takeBlanks rest
      some ("-#\x7d".toList ++ blanks, rest)
  | '#' :: '\x7d' :: '\n' :: rest => some ("#\x7d\n".toList, rest)
  | '#' :: '\x7d' :: rest => some ("#\x7d".toList, rest)
  | _ => none

def breakAtEnd (take? : List Char → Option (List Char × List Char)) :
    List Char → Option (List Char × List Char × List Char)
  | [] => none
  | c :: rest =>
      match take? (c :: rest) with
      | some (ending, rest) => some ([], ending, rest)
      | none => (breakAtEnd take? rest).map fun (before, ending, r) => (c :: before, ending, r)

def takeRawStart? (s : List Char) : Option (List Char × List Char) :=
  match takeWord? "raw" s with
  | some (word, '-' :: '%' :: '\x7d' :: rest) =>
      let (blanks, rest) := takeBlanks rest
      some (word ++ "-%\x7d".toList ++ blanks, rest)
  | some (word, '%' :: '\x7d' :: rest) => some (word ++ "%\x7d".toList, rest)
  | _ => none

def takeRawEnd? : List Char → Option (List Char × List Char)
  | '\x7b' :: '%' :: rest => do
      let (word, rest) ← takeWord? "endraw" (takeSign rest).2
      let (ending, rest) ← takeTagEnd? rest
      return ("\x7b%".toList ++ word ++ ending, rest)
  | _ => none

def signOfMark (mark : List Char) : Sign := (takeSign (mark.drop 2)).1

-- The text before a tag as it is kept, and the number of line ends that were dropped. Blanks at the start of
-- the line go unless the tag says otherwise.
def trimBefore (sign : Sign) (isOutput lineStart : Bool) (text : List Char) : List Char × Nat :=
  match sign with
  | .strip =>
      let kept := (text.reverse.dropWhile Text.isBlank).reverse
      (kept, lineCount (text.drop kept.length))
  | .keep => (text, 0)
  | .none =>
      if isOutput then (text, 0)
      else
        let tail := (text.reverse.takeWhile (· ≠ '\n')).reverse
        let start := text.length - tail.length
        if (0 < start || lineStart) && tail.all Text.isBlank then (text.take start, 0) else (text, 0)

def dataToken (line : Nat) (text : List Char) : List Token :=
  if text.isEmpty then [] else [⟨line, .data (String.ofList text)⟩]

/-! ### Words -/

def isWordChar (c : Char) : Bool :=
  c.isAlphanum || c = '_' || (128 ≤ c.toNat && !Text.isBlank c)

def digitGroup (isDigit : Char → Bool) : List Char → List Char × List Char
  | [] => ([], [])
  | c :: rest =>
      if isDigit c then
        let (digits, r) := digitGroup isDigit rest
        (c :: digits, r)
      else if c = '_' && (rest.head?.map isDigit).getD false then digitGroup isDigit rest
      else ([], c :: rest)

def decimalValue (digits : List Char) : Nat :=
  Text.ofDigits 10 (digits.map fun c => c.toNat - 48)

def takeExponent? : List Char → Option (Int × List Char)
  | e :: rest =>
      if e = 'e' || e = 'E' then
        let (negative, body) := match rest with
          | '-' :: more => (true, more)
          | '+' :: more => (false, more)
          | more => (false, more)
        if (body.head?.map Char.isDigit).getD false then
          let (digits, r) := digitGroup Char.isDigit body
          let value : Int := decimalValue digits
          some (if negative then -value else value, r)
        else none
      else none
  | [] => none

def takeFloat? (s : List Char) : Option (Real64 × List Char) :=
  let (whole, rest) := digitGroup Char.isDigit s
  let (fraction, rest, pointed) := match rest with
    | '.' :: d :: more =>
        if d.isDigit then
          let (digits, r) := digitGroup Char.isDigit (d :: more)
          (digits, r, true)
        else ([], rest, false)
    | _ => ([], rest, false)
  let number := fun (exponent : Int) =>
    Real64.ofDecimal false (decimalValue (whole ++ fraction)) (exponent - fraction.length)
  match takeExponent? rest with
  | some (exponent, r) => some (number exponent, r)
  | none => if pointed then some (number 0, rest) else none

def radixDigit (c : Char) : Nat := (Text.hexValue? c).getD 0

def takeRadix? (base : Nat) (isDigit : Char → Bool) (s : List Char) : Option (Nat × List Char) :=
  let body := match s with
    | '_' :: rest => rest
    | rest => rest
  let (digits, r) := digitGroup isDigit body
  if digits.isEmpty then none else some (Text.ofDigits base (digits.map radixDigit), r)

def isHexDigit (c : Char) : Bool := (Text.hexValue? c).isSome

def takeInt (s : List Char) : Nat × List Char :=
  let radix := match s with
    | '0' :: x :: rest =>
        if x = 'x' || x = 'X' then takeRadix? 16 isHexDigit rest
        else if x = 'o' || x = 'O' then takeRadix? 8 Text.isOctal rest
        else if x = 'b' || x = 'B' then takeRadix? 2 (fun c => c = '0' || c = '1') rest
        else none
    | _ => none
  match radix with
  | some found => found
  | none =>
      let isDigit := fun (c : Char) => if s.head? = some '0' then c == '0' else c.isDigit
      let (digits, r) := digitGroup isDigit s
      (decimalValue digits, r)

def takeQuoted? (quote : Char) : List Char → Option (List Char × List Char)
  | [] => none
  | '\\' :: c :: rest => (takeQuoted? quote rest).map fun (body, r) => ('\\' :: c :: body, r)
  | c :: rest =>
      if c = quote then some ([], rest)
      else (takeQuoted? quote rest).map fun (body, r) => (c :: body, r)

def escapeWide (c : Char) : List Char :=
  let n := c.toNat
  if n < 128 then [c]
  else if n < 0x100 then '\\' :: 'x' :: Text.hexDigits 2 n
  else if n < 0x10000 then '\\' :: 'u' :: Text.hexDigits 4 n
  else '\\' :: 'U' :: Text.hexDigits 8 n

def textValue? (body : List Char) : Option String :=
  (Text.unescape false (body.flatMap escapeWide)).map String.ofList

def wordOperators : List (List Char) :=
  ["//", "**", "==", "!=", ">=", "<=", "+", "-", "/", "*", "%", "~", "[", "]", "(", ")", "\x7b",
    "\x7d", ">", "<", "=", ".", ":", "|", ",", ";"].map String.toList

def closingOf : Char → Option Char
  | '(' => some ')'
  | '[' => some ']'
  | '\x7b' => some '\x7d'
  | _ => none

-- The brackets that are open after an operator, unless it closes what is not open.
def balance (open' : List Char) (operator : List Char) : Option (List Char) :=
  match operator with
  | [c] =>
      match closingOf c with
      | some close => some (close :: open')
      | none =>
          if c = ')' || c = ']' || c = '\x7d' then
            match open' with
            | expected :: outer => if expected = c then some outer else none
            | [] => none
          else some open'
  | _ => some open'

def takeItem? (open' : List Char) (afterDot : Bool) (s : List Char) :
    Option (Piece × List Char × List Char) :=
  match s with
  | [] => none
  | c :: rest =>
      if c.isDigit then
        match (if afterDot then none else takeFloat? s) with
        | some (value, r) => some (.float value, r, open')
        | none =>
            let (value, r) := takeInt s
            some (.int value, r, open')
      else if isWordChar c then
        let word := s.takeWhile isWordChar
        if Text.isIdentifierChars word then
          some (.name (String.ofList word), s.drop word.length, open')
        else none
      else if c = '\'' || c = '"' then
        match takeQuoted? c rest with
        | none => none
        | some (body, r) => (textValue? body).map fun value => (.text value, r, open')
      else
        match wordOperators.find? (·.isPrefixOf s) with
        | none => none
        | some operator =>
            (balance open' operator).map fun open' =>
              (.op (String.ofList operator), s.drop operator.length, open')

/-! ### The whole text -/

inductive Mode where
  | data
  | comment
  | raw
  | output
  | tag
  deriving DecidableEq, Repr

structure Scan where
  mode : Mode := .data
  line : Nat := 1
  lineStart : Bool := true
  brackets : List Char := []
  afterDot : Bool := false

def scanData (scan : Scan) (s : List Char) : List Token × Option (Scan × List Char) :=
  match breakAtMark s with
  | (text, none) => (dataToken scan.line text, none)
  | (text, some (mark, rest)) =>
      let (sign, body) := takeSign rest
      let raw := if mark = '%' then takeRawStart? body else none
      let (kept, dropped) := trimBefore sign (mark = '\x7b') scan.lineStart text
      let line := scan.line + lineCount kept + dropped
      let tokens := dataToken scan.line kept
      let inside := fun (mode : Mode) => { scan with mode, line, lineStart := false, afterDot := false }
      match raw with
      | some (taken, rest) =>
          (tokens, some ({ inside .raw with line := line + lineCount taken, lineStart := endsLine taken }, rest))
      | none =>
          if mark = '#' then (tokens, some (inside .comment, body))
          else if mark = '%' then (tokens ++ [⟨line, .openTag⟩], some (inside .tag, body))
          else (tokens ++ [⟨line, .openOutput⟩], some (inside .output, body))

def scanComment (scan : Scan) (s : List Char) : List Token × Option (Scan × List Char) :=
  match breakAtEnd takeCommentEnd? s with
  | some (text, ending, rest) =>
      let line := scan.line + lineCount text + lineCount ending
      ([], some ({ scan with mode := .data, line, lineStart := endsLine ending }, rest))
  | none => ([⟨scan.line, .bad⟩], none)

def scanRaw (scan : Scan) (s : List Char) : List Token × Option (Scan × List Char) :=
  match breakAtEnd takeRawEnd? s with
  | some (text, ending, rest) =>
      let (kept, dropped) := trimBefore (signOfMark ending) false scan.lineStart text
      let line := scan.line + lineCount kept + dropped + lineCount ending
      (dataToken scan.line kept,
        some ({ scan with mode := .data, line, lineStart := endsLine ending }, rest))
  | none => ([⟨scan.line, .bad⟩], none)

def scanInside (scan : Scan) (s : List Char) : List Token × Option (Scan × List Char) :=
  let ending :=
    if !scan.brackets.isEmpty then none
    else if scan.mode = .tag then takeTagEnd? s else takeOutputEnd? s
  match ending with
  | some (ending, rest) =>
      let piece := if scan.mode = .tag then Piece.closeTag else .closeOutput
      ([⟨scan.line, piece⟩],
        some ({ scan with
          mode := .data, line := scan.line + lineCount ending, lineStart := endsLine ending }, rest))
  | none =>
      let (blanks, rest) := takeBlanks s
      if !blanks.isEmpty then
        ([], some ({ scan with line := scan.line + lineCount blanks, afterDot := false }, rest))
      else
        match takeItem? scan.brackets scan.afterDot s with
        | none => ([⟨scan.line, .bad⟩], none)
        | some (piece, rest, brackets) =>
            let taken := s.take (s.length - rest.length)
            ([⟨scan.line, piece⟩],
              some ({ scan with
                line := scan.line + lineCount taken, brackets, afterDot := piece = .op "." }, rest))

def scanStep (scan : Scan) (s : List Char) : List Token × Option (Scan × List Char) :=
  match scan.mode with
  | .data => scanData scan s
  | .comment => scanComment scan s
  | .raw => scanRaw scan s
  | .output => scanInside scan s
  | .tag => scanInside scan s

def scanFrom : Nat → Scan → List Char → List Token
  | 0, _, _ => []
  | fuel + 1, scan, s =>
      if s.isEmpty then []
      else
        match scanStep scan s with
        | (tokens, none) => tokens
        | (tokens, some (scan, rest)) => tokens ++ scanFrom fuel scan rest

def tokens (text : List Char) : List Token :=
  let text := Text.unifyNewlines text
  scanFrom (text.length + 1) {} text

end StubForge.Template
