import StubForge.Encoding.Utf8
import StubForge.Yaml.Scalar

set_option autoImplicit false

/-!
The tokens of a settings document. Indentation opens and closes blocks, and a key on one line is
recognised when the colon after it is reached, so its token is put in front of what was read since.
-/

namespace StubForge.Yaml

inductive Directive where
  | version (major : Nat)
  | tag (handle replacement : String)
  | unknown
  deriving DecidableEq, Repr

inductive Token where
  | directive (directive : Directive)
  | documentStart
  | documentEnd
  | blockSequenceStart
  | blockMappingStart
  | blockEnd
  | flowSequenceStart
  | flowSequenceEnd
  | flowMappingStart
  | flowMappingEnd
  | blockEntry
  | flowEntry
  | key
  | value
  | reference (anchor : String)
  | anchor (name : String)
  | tag (handle : Option String) (suffix : String)
  | scalar (text : String) (isPlain : Bool)
  | streamEnd
  deriving DecidableEq, Repr

structure PossibleKey where
  position : Nat
  -- Nothing but a key can stand there.
  required : Bool
  index : Nat
  line : Nat
  column : Nat

structure Scanner where
  cursor : Cursor
  tokens : List Token := []
  flowLevel : Nat := 0
  indents : List Nat := []
  allowKey : Bool := true
  -- At most one place for each level of flow collections.
  possibleKeys : List (Nat × PossibleKey) := []

abbrev Scan := Except Fault Scanner

namespace Scanner

def add (scanner : Scanner) (token : Token) : Scanner :=
  { scanner with tokens := scanner.tokens ++ [token] }

def past (scanner : Scanner) (n : Nat) : Scanner := { scanner with cursor := scanner.cursor.skip n }

def inFlow (scanner : Scanner) : Bool := scanner.flowLevel ≠ 0

def insertAt (token : Token) : Nat → List Token → List Token
  | 0, tokens => token :: tokens
  | _ + 1, [] => [token]
  | n + 1, first :: rest => first :: insertAt token n rest

/-! ### Keys -/

def keyLimit : Nat := 1024

-- A key ends on its line, and is not overlong.
def isStale (cursor : Cursor) (key : PossibleKey) : Bool :=
  key.line ≠ cursor.line || keyLimit < cursor.index - key.index

def dropStaleKeys (scanner : Scanner) : Scan :=
  let stale := fun (entry : Nat × PossibleKey) => isStale scanner.cursor entry.2
  if scanner.possibleKeys.any fun entry => stale entry && entry.2.required then .error .malformed
  else .ok { scanner with possibleKeys := scanner.possibleKeys.filter fun entry => !stale entry }

def keyHere? (scanner : Scanner) : Option PossibleKey :=
  (scanner.possibleKeys.find? fun entry => entry.1 = scanner.flowLevel).map (·.2)

def forgetKey (scanner : Scanner) : Scanner :=
  { scanner with possibleKeys := scanner.possibleKeys.filter fun entry => entry.1 ≠ scanner.flowLevel }

def removeKey (scanner : Scanner) : Scan :=
  match scanner.keyHere? with
  | some key => if key.required then .error .malformed else .ok scanner.forgetKey
  | none => .ok scanner

def saveKey (scanner : Scanner) : Scan :=
  if !scanner.allowKey then .ok scanner
  else do
    let scanner ← scanner.removeKey
    let cursor := scanner.cursor
    let required := !scanner.inFlow && scanner.indents.head? = some cursor.column
    let key : PossibleKey :=
      ⟨scanner.tokens.length, required, cursor.index, cursor.line, cursor.column⟩
    .ok { scanner with possibleKeys := (scanner.flowLevel, key) :: scanner.possibleKeys }

/-! ### Indentation -/

def closeBlocks (column : Nat) : List Nat → List Nat × List Token
  | [] => ([], [])
  | indent :: outer =>
      if column < indent then
        let (left, closed) := closeBlocks column outer
        (left, .blockEnd :: closed)
      else (indent :: outer, [])

def unwind (column : Nat) (scanner : Scanner) : Scanner :=
  if scanner.inFlow then scanner
  else
    let (indents, closed) := closeBlocks column scanner.indents
    { scanner with indents, tokens := scanner.tokens ++ closed }

def unwindAll (scanner : Scanner) : Scanner :=
  if scanner.inFlow then scanner
  else
    { scanner with
      indents := [], tokens := scanner.tokens ++ List.replicate scanner.indents.length .blockEnd }

-- Opens a block at a column, if it is indented further than the blocks that are open.
def openBlock (column position : Nat) (start : Token) (scanner : Scanner) : Scanner :=
  let deeper := match scanner.indents with
    | [] => true
    | indent :: _ => decide (indent < column)
  if !scanner.inFlow && deeper then
    { scanner with
      indents := column :: scanner.indents, tokens := insertAt start position scanner.tokens }
  else scanner

/-! ### Between tokens -/

def skipBlank : Nat → Scanner → Scanner
  | 0, scanner => scanner
  | fuel + 1, scanner =>
      let cursor := scanner.cursor.dropSpaces
      let cursor := if cursor.head = '#' then cursor.restOfLine.2 else cursor
      match cursor.lineBreak with
      | ([], _) => { scanner with cursor }
      | (_, after) =>
          skipBlank fuel { scanner with cursor := after, allowKey := !scanner.inFlow || scanner.allowKey }

def skipToToken (scanner : Scanner) : Scanner :=
  let cursor := scanner.cursor
  let marked := cursor.index = 0 && cursor.head = byteMark
  skipBlank (cursor.rest.length + 1) { scanner with cursor := if marked then cursor.step else cursor }

/-! ### Directives, anchors and tags -/

def number (cursor : Cursor) : Except Fault (Nat × Cursor) :=
  let (digits, after) := cursor.takeWhile Char.isDigit
  if digits.isEmpty then .error .malformed
  else .ok (digits.foldl (fun total c => total * 10 + (c.toNat - 48)) 0, after)

def isLinkChar (c : Char) : Bool := c.isAlphanum || "-;/?:@&=+$,_.!~*'()[]%".toList.contains c

def percentBytes : Nat → Cursor → Except Fault (List UInt8 × Cursor)
  | 0, cursor => .ok ([], cursor)
  | fuel + 1, cursor =>
      if cursor.head ≠ '%' then .ok ([], cursor)
      else
        match Text.hexNumber? [cursor.look 1, cursor.look 2] with
        | none => .error .malformed
        | some n => do
            let (more, after) ← percentBytes fuel (cursor.skip 3)
            .ok (UInt8.ofNat n :: more, after)

def linkFrom : Nat → Cursor → Except Fault (List Char × Cursor)
  | 0, cursor => .ok ([], cursor)
  | fuel + 1, cursor =>
      if cursor.head = '%' then do
        let (bytes, next) ← percentBytes (cursor.rest.length + 1) cursor
        match Utf8.decode bytes with
        | .error _ => .error .malformed
        | .ok chars => do
            let (more, after) ← linkFrom fuel next
            .ok (chars ++ more, after)
      else if isLinkChar cursor.head then do
        let (more, after) ← linkFrom fuel cursor.step
        .ok (cursor.head :: more, after)
      else .ok ([], cursor)

def link (cursor : Cursor) : Except Fault (String × Cursor) :=
  if !isLinkChar cursor.head then .error .malformed
  else do
    let (chars, after) ← linkFrom (cursor.rest.length + 1) cursor
    .ok (String.ofList chars, after)

-- A handle is an exclamation mark, or a word between two of them.
def handle (cursor : Cursor) : Except Fault (String × Cursor) :=
  if cursor.head ≠ '!' then .error .malformed
  else
    let (word, after) := cursor.step.takeWhile isWordChar
    if after.head = '!' then .ok (String.ofList ('!' :: word ++ ['!']), after.step)
    else if cursor.look 1 = ' ' then .ok ("!", cursor.step)
    else .error .malformed

def directive (cursor : Cursor) : Except Fault (Directive × Cursor) := do
  let (name, after) := cursor.step.takeWhile isWordChar
  if name.isEmpty || !isSpaceOrEnd after.head then .error .malformed
  else
    let (found, after) ←
      if name = "YAML".toList then do
        let (major, after) ← number after.dropSpaces
        if after.head ≠ '.' then .error .malformed
        else
          let (_, after) ← number after.step
          if isSpaceOrEnd after.head then .ok (Directive.version major, after) else .error .malformed
      else if name = "TAG".toList then do
        let (handle, after) ← handle after.dropSpaces
        if after.head ≠ ' ' then .error .malformed
        else
          let (replacement, after) ← link after.dropSpaces
          if isSpaceOrEnd after.head then .ok (.tag handle replacement, after) else .error .malformed
      else .ok (.unknown, after.restOfLine.2)
    .ok (found, ← after.finishLine)

def endsAnchor (c : Char) : Bool := isBlankOrEnd c || "?:,]\x7d%@`".toList.contains c

def anchorName (cursor : Cursor) : Except Fault (String × Cursor) :=
  let (name, after) := cursor.step.takeWhile isWordChar
  if name.isEmpty || !endsAnchor after.head then .error .malformed
  else .ok (String.ofList name, after)

def hasHandle (cursor : Cursor) : Bool :=
  let word := cursor.step.rest.takeWhile fun c => !isSpaceOrEnd c
  word.contains '!'

def tag (cursor : Cursor) : Except Fault (Token × Cursor) := do
  let next := cursor.look 1
  let (token, after) ←
    if next = '<' then do
      let (suffix, after) ← link (cursor.skip 2)
      if after.head = '>' then .ok (Token.tag none suffix, after.step) else .error .malformed
    else if isBlankOrEnd next then .ok (.tag none "!", cursor.step)
    else do
      let (handle, after) ← if hasHandle cursor then handle cursor else .ok ("!", cursor.step)
      let (suffix, after) ← link after
      .ok (.tag (some handle) suffix, after)
  if isSpaceOrEnd after.head then .ok (token, after) else .error .malformed

/-! ### The next token -/

def documentMark (token : Token) (scanner : Scanner) : Scan := do
  let scanner ← scanner.unwindAll.removeKey
  .ok (({ scanner with allowKey := false }.past 3).add token)

def flowStart (token : Token) (scanner : Scanner) : Scan := do
  let scanner ← scanner.saveKey
  .ok (({ scanner with flowLevel := scanner.flowLevel + 1, allowKey := true }.past 1).add token)

def flowEnd (token : Token) (scanner : Scanner) : Scan :=
  if !scanner.inFlow then .error .malformed
  else do
    let scanner ← scanner.removeKey
    .ok (({ scanner with flowLevel := scanner.flowLevel - 1, allowKey := false }.past 1).add token)

def flowEntry (scanner : Scanner) : Scan := do
  let scanner ← { scanner with allowKey := true }.removeKey
  .ok ((scanner.past 1).add .flowEntry)

def blockEntry (scanner : Scanner) : Scan :=
  if !scanner.inFlow && !scanner.allowKey then .error .malformed
  else do
    let opened :=
      scanner.openBlock scanner.cursor.column scanner.tokens.length .blockSequenceStart
    let scanner ← { opened with allowKey := true }.removeKey
    .ok ((scanner.past 1).add .blockEntry)

def explicitKey (scanner : Scanner) : Scan :=
  if !scanner.inFlow && !scanner.allowKey then .error .malformed
  else do
    let opened := scanner.openBlock scanner.cursor.column scanner.tokens.length .blockMappingStart
    let scanner ← { opened with allowKey := !scanner.inFlow }.removeKey
    .ok ((scanner.past 1).add .key)

def value (scanner : Scanner) : Scan :=
  match scanner.keyHere? with
  | some key =>
      let known := { scanner.forgetKey with tokens := insertAt .key key.position scanner.tokens }
      let opened := known.openBlock key.column key.position .blockMappingStart
      .ok (({ opened with allowKey := false }.past 1).add .value)
  | none =>
      if !scanner.inFlow && !scanner.allowKey then .error .malformed
      else
        let opened := scanner.openBlock scanner.cursor.column scanner.tokens.length .blockMappingStart
        .ok (({ opened with allowKey := !scanner.inFlow }.past 1).add .value)

-- A token that may start a key, and after which none may start.
def inKey (scanner : Scanner) (read : Cursor → Except Fault (Token × Cursor)) : Scan := do
  let scanner ← scanner.saveKey
  let (token, cursor) ← read scanner.cursor
  .ok ({ scanner with cursor, allowKey := false }.add token)

def block (fold : Bool) (scanner : Scanner) : Scan := do
  let scanner ← { scanner with allowKey := true }.removeKey
  let (text, cursor) ← blockScalar fold scanner.indents.head? scanner.cursor
  .ok ({ scanner with cursor }.add (.scalar (String.ofList text) false))

def quoted (double : Bool) (scanner : Scanner) : Scan :=
  scanner.inKey fun cursor => do
    let (text, after) ← quotedScalar double cursor
    .ok (.scalar (String.ofList text) false, after)

def plain (scanner : Scanner) : Scan := do
  let scanner ← scanner.saveKey
  let indent := match scanner.indents with
    | [] => 0
    | column :: _ => column + 1
  let found := plainScalar scanner.inFlow indent scanner.cursor
  .ok ({ scanner with cursor := found.cursor, allowKey := found.lineEnded }.add
    (.scalar (String.ofList found.text) true))

def indicators : List Char := "-?:,[]\x7b\x7d#&*!|>'\"%@`".toList

-- A plain scalar can start here: with a character that is no indicator, or with one of those that only count
-- before a blank.
def startsPlain (scanner : Scanner) : Bool :=
  let c := scanner.cursor.head
  (!isBlankOrEnd c && !indicators.contains c)
    || (!isBlankOrEnd (scanner.cursor.look 1) && (c = '-' || (!scanner.inFlow && (c = '?' || c = ':'))))

def readToken (scanner : Scanner) : Scan :=
  let cursor := scanner.cursor
  let c := cursor.head
  let apart := isBlankOrEnd (cursor.look 1)
  if c = '%' && cursor.column = 0 then do
    let scanner ← scanner.unwindAll.removeKey
    let (found, cursor) ← directive scanner.cursor
    .ok ({ scanner with cursor, allowKey := false }.add (.directive found))
  else if cursor.column = 0 && cursor.atMark '-' then scanner.documentMark .documentStart
  else if cursor.column = 0 && cursor.atMark '.' then scanner.documentMark .documentEnd
  else if c = '[' then scanner.flowStart .flowSequenceStart
  else if c = '\x7b' then scanner.flowStart .flowMappingStart
  else if c = ']' then scanner.flowEnd .flowSequenceEnd
  else if c = '\x7d' then scanner.flowEnd .flowMappingEnd
  else if c = ',' then scanner.flowEntry
  else if c = '-' && apart then scanner.blockEntry
  else if c = '?' && (scanner.inFlow || apart) then scanner.explicitKey
  else if c = ':' && (scanner.inFlow || apart) then scanner.value
  else if c = '*' then
    scanner.inKey fun cursor => (anchorName cursor).map fun (name, after) => (.reference name, after)
  else if c = '&' then
    scanner.inKey fun cursor => (anchorName cursor).map fun (name, after) => (.anchor name, after)
  else if c = '!' then scanner.inKey tag
  else if c = '|' && !scanner.inFlow then scanner.block false
  else if c = '>' && !scanner.inFlow then scanner.block true
  else if c = '\'' then scanner.quoted false
  else if c = '"' then scanner.quoted true
  else if scanner.startsPlain then scanner.plain
  else .error .malformed

def finish (scanner : Scanner) : Except Fault (List Token) := do
  let scanner ← scanner.unwindAll.removeKey
  .ok (scanner.add .streamEnd).tokens

def run : Nat → Scanner → Except Fault (List Token)
  | 0, _ => .error .malformed
  | fuel + 1, scanner => do
      let scanner ← scanner.skipToToken.dropStaleKeys
      let scanner := scanner.unwind scanner.cursor.column
      if scanner.cursor.atEnd then scanner.finish
      else run fuel (← scanner.readToken)

end Scanner

def isAllowed (c : Char) : Bool :=
  let n := c.toNat
  n = 9 || n = 10 || n = 13 || (0x20 ≤ n && n ≤ 0x7e) || n = 0x85 || (0xa0 ≤ n && n ≤ 0xd7ff)
    || (0xe000 ≤ n && n ≤ 0xfffd) || 0x10000 ≤ n

def tokens (document : List Char) : Except Fault (List Token) :=
  if document.all isAllowed then Scanner.run (document.length + 2) { cursor := { rest := document } }
  else .error .malformed

end StubForge.Yaml
