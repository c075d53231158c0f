import StubForge.Text.Escape
import StubForge.Yaml.Cursor

set_option autoImplicit false

/-!
The texts of scalars: plain ones, quoted ones, and blocks of lines. Line ends inside a scalar are
folded: one becomes a space, and of several the first is dropped.
-/

namespace StubForge.Yaml

/-! ### Folding -/

-- A line end and the empty lines after it, as they count in a text that is folded.
def folded (first more : List Char) : List Char :=
  if first ≠ ['\n'] then first ++ more else if more.isEmpty then [' '] else more

/-! ### Plain scalars -/

-- Skips spaces and empty lines; `none` if a document mark comes first.
def plainLines : Nat → Cursor → Option (List Char × Cursor)
  | 0, cursor => some ([], cursor)
  | fuel + 1, cursor =>
      let cursor := cursor.dropSpaces
      match cursor.lineBreak with
      | ([], _) => some ([], cursor)
      | (ended, after) =>
          if after.atDocumentMark then none
          else (plainLines fuel after).map fun (more, cursor) => (ended ++ more, cursor)

structure Gap where
  text : List Char
  lineEnded : Bool
  cursor : Cursor

def plainGap (cursor : Cursor) : Gap :=
  let (blanks, after) := cursor.takeWhile (· = ' ')
  match after.lineBreak with
  | ([], _) => ⟨blanks, false, after⟩
  | (ended, next) =>
      if next.atDocumentMark then ⟨[], true, next⟩
      else
        match plainLines next.rest.length next with
        | none => ⟨[], true, next⟩
        | some (more, cursor) => ⟨folded ended more, true, cursor⟩

def isFlowIndicator (c : Char) : Bool := c = ',' || c = '[' || c = ']' || c = '\x7b' || c = '\x7d'

def stopsPlain (inFlow : Bool) (cursor : Cursor) : Bool :=
  let c := cursor.head
  isBlankOrEnd c
    || (c = ':' && (isBlankOrEnd (cursor.look 1) || (inFlow && isFlowIndicator (cursor.look 1))))
    || (inFlow && (c = '?' || isFlowIndicator c))

def plainRun (inFlow : Bool) : Nat → Cursor → List Char × Cursor
  | 0, cursor => ([], cursor)
  | fuel + 1, cursor =>
      if stopsPlain inFlow cursor then ([], cursor)
      else
        let (more, after) := plainRun inFlow fuel cursor.step
        (cursor.head :: more, after)

structure Plain where
  text : List Char
  lineEnded : Bool
  cursor : Cursor

-- Reads the parts of a plain scalar. In blocks, its lines are indented at least as far as given.
def plainFrom (inFlow : Bool) (indent : Nat) : Nat → List Char → Bool → Cursor → Plain
  | 0, gap, lineEnded, cursor => ⟨gap, lineEnded, cursor⟩
  | fuel + 1, gap, lineEnded, cursor =>
      if cursor.head = '#' then ⟨[], lineEnded, cursor⟩
      else
        let (run, after) := plainRun inFlow cursor.rest.length cursor
        if run.isEmpty then ⟨[], lineEnded, cursor⟩
        else
          let next := plainGap after
          if next.text.isEmpty || next.cursor.head = '#' || (!inFlow && next.cursor.column < indent) then
            ⟨gap ++ run, next.lineEnded, next.cursor⟩
          else
            let more := plainFrom inFlow indent fuel next.text next.lineEnded next.cursor
            { more with text := gap ++ run ++ more.text }

def plainScalar (inFlow : Bool) (indent : Nat) (cursor : Cursor) : Plain :=
  plainFrom inFlow indent (cursor.rest.length + 1) [] false cursor

/-! ### Quoted scalars -/

def simpleEscape? : Char → Option Char
  | '0' => some '\x00'
  | 'a' => some '\x07'
  | 'b' => some '\x08'
  | 't' => some '\t'
  | '\t' => some '\t'
  | 'n' => some '\n'
  | 'v' => some '\x0b'
  | 'f' => some '\x0c'
  | 'r' => some '\r'
  | 'e' => some '\x1b'
  | ' ' => some ' '
  | '"' => some '"'
  | '\\' => some '\\'
  | '/' => some '/'
  | 'N' => some '\x85'
  | '_' => some '\xa0'
  | 'L' => some '\u2028'
  | 'P' => some '\u2029'
  | _ => none

def escapeWidth? : Char → Option Nat
  | 'x' => some 2
  | 'u' => some 4
  | 'U' => some 8
  | _ => none

-- The character of a number; halves of surrogate pairs are replaced.
def charOfNumber (n : Nat) : Except Fault Char :=
  if 0x7fffffff < n then
    .error (.raised "OverflowError" "Python int too large to convert to C int")
  else if 0x10ffff < n then .error (.raised "ValueError" "chr() arg not in range(0x110000)")
  else if 0xd800 ≤ n && n ≤ 0xdfff then .ok '\ufffd'
  else .ok (Char.ofNat n)

def quotedLines : Nat → Cursor → Except Fault (List Char × Cursor)
  | 0, cursor => .ok ([], cursor)
  | fuel + 1, cursor =>
      if cursor.atDocumentMark then .error .malformed
      else
        let cursor := cursor.dropWhile fun c => c = ' ' || c = '\t'
        match cursor.lineBreak with
        | ([], _) => .ok ([], cursor)
        | (ended, after) => (quotedLines fuel after).map fun (more, cursor) => (ended ++ more, cursor)

def quotedBlanks (cursor : Cursor) : Except Fault (List Char × Cursor) :=
  let (blanks, after) := cursor.takeWhile fun c => c = ' ' || c = '\t'
  if after.atEnd then .error .malformed
  else
    match after.lineBreak with
    | ([], _) => .ok (blanks, after)
    | (ended, next) => do
        let (more, cursor) ← quotedLines (next.rest.length + 1) next
        .ok (folded ended more, cursor)

def escaped (cursor : Cursor) : Except Fault (List Char × Cursor) :=
  let c := cursor.head
  if cursor.atEnd then .error .malformed
  else
    match simpleEscape? c, escapeWidth? c with
    | some char, _ => .ok ([char], cursor.step)
    | none, some width =>
        let digits := cursor.step.rest.take width
        match if digits.length = width then Text.hexNumber? digits else none with
        | none => .error .malformed
        | some n => do
            let char ← charOfNumber n
            .ok ([char], cursor.skip (width + 1))
    | none, none =>
        if isBreak c then
          let next := cursor.lineBreak.2
          quotedLines (next.rest.length + 1) next
        else .error .malformed

def quotedFrom (double : Bool) : Nat → Cursor → Except Fault (List Char × Cursor)
  | 0, _ => .error .malformed
  | fuel + 1, cursor =>
      let c := cursor.head
      if !double && c = '\'' && cursor.look 1 = '\'' then do
        let (more, after) ← quotedFrom double fuel (cursor.skip 2)
        .ok ('\'' :: more, after)
      else if c = (if double then '"' else '\'') then .ok ([], cursor)
      else if double && c = '\\' then do
        let (chars, next) ← escaped cursor.step
        let (more, after) ← quotedFrom double fuel next
        .ok (chars ++ more, after)
      else if isBlankOrEnd c then do
        let (blanks, next) ← quotedBlanks cursor
        let (more, after) ← quotedFrom double fuel next
        .ok (blanks ++ more, after)
      else do
        let (more, after) ← quotedFrom double fuel cursor.step
        .ok (c :: more, after)

def quotedScalar (double : Bool) (cursor : Cursor) : Except Fault (List Char × Cursor) := do
  let (text, after) ← quotedFrom double (cursor.rest.length + 1) cursor.step
  .ok (text, after.step)

/-! ### Blocks of lines -/

inductive Chomping where
  | strip
  | clip
  | keep
  deriving DecidableEq, Repr

structure BlockHeader where
  chomping : Chomping := .clip
  increment : Option Nat := none

def chomping? (c : Char) : Option Chomping :=
  if c = '+' then some .keep else if c = '-' then some .strip else none

def increment? (c : Char) : Option Nat := if c.isDigit then some (c.toNat - 48) else none

def blockHeader (cursor : Cursor) : Except Fault (BlockHeader × Cursor) :=
  let found : BlockHeader × Cursor :=
    match chomping? cursor.head, increment? cursor.head with
    | some chomping, _ =>
        match increment? (cursor.look 1) with
        | some n => ({ chomping, increment := some n }, cursor.skip 2)
        | none => ({ chomping }, cursor.step)
    | none, some n =>
        match chomping? (cursor.look 1) with
        | some chomping => ({ chomping, increment := some n }, cursor.skip 2)
        | none => ({ increment := some n }, cursor.step)
    | none, none => ({}, cursor)
  if found.1.increment = some 0 || !isSpaceOrEnd found.2.head then .error .malformed else .ok found

def indentTo (indent : Nat) (cursor : Cursor) : Cursor :=
  cursor.skip (min (indent - cursor.column) (cursor.rest.takeWhile (· = ' ')).length)

def blockBreaks (indent : Nat) : Nat → Cursor → List Char × Cursor
  | 0, cursor => ([], cursor)
  | fuel + 1, cursor =>
      let cursor := indentTo indent cursor
      match cursor.lineBreak with
      | ([], _) => ([], cursor)
      | (ended, after) =>
          let (more, last) := blockBreaks indent fuel after
          (ended ++ more, last)

-- The empty lines that a block starts with, and the widest indentation among them and the first line with
-- text.
def leadingBreaks : Nat → Nat → Cursor → List Char × Nat × Cursor
  | 0, widest, cursor => ([], widest, cursor)
  | fuel + 1, widest, cursor =>
      let (blanks, after) := cursor.takeWhile (· = ' ')
      let widest := if blanks.isEmpty then widest else max widest after.column
      match after.lineBreak with
      | ([], _) => ([], widest, after)
      | (ended, next) =>
          let (more, widest, last) := leadingBreaks fuel widest next
          (ended ++ more, widest, last)

structure Block where
  text : List Char
  lineBreak : List Char
  breaks : List Char
  cursor : Cursor

def isIndentedMore (cursor : Cursor) : Bool := cursor.head = ' ' || cursor.head = '\t'

-- Reads the lines of a block. Between lines that are not indented further, line ends are folded.
def blockLines (fold : Bool) (indent : Nat) : Nat → List Char → Cursor → Block
  | 0, breaks, cursor => ⟨[], [], breaks, cursor⟩
  | fuel + 1, breaks, cursor =>
      if cursor.column ≠ indent || cursor.atEnd then ⟨[], [], breaks, cursor⟩
      else
        let (line, atBreak) := cursor.restOfLine
        let (ended, next) := atBreak.lineBreak
        let (more, after) := blockBreaks indent (next.rest.length + 1) next
        if after.column = indent && !after.atEnd then
          let between :=
            if fold && ended = ['\n'] && !isIndentedMore cursor && !isIndentedMore after then
              if more.isEmpty then [' '] else []
            else ended
          let block := blockLines fold indent fuel more after
          { block with text := breaks ++ line ++ between ++ block.text }
        else ⟨breaks ++ line, ended, more, after⟩

-- Reads a block scalar from its style on. The lines are indented further than the block that holds them,
-- whose lines have the given indentation.
def blockScalar (fold : Bool) (outer : Option Nat) (cursor : Cursor) : Except Fault (List Char × Cursor) := do
  let (header, cursor) ← blockHeader cursor.step
  let cursor ← cursor.finishLine
  let least := match outer with | some n => n + 1 | none => 1
  let fuel := cursor.rest.length + 1
  let (indent, breaks, cursor) := match header.increment with
    | some n =>
        let indent := least + n - 1
        (indent, blockBreaks indent fuel cursor)
    | none =>
        let (breaks, widest, cursor) := leadingBreaks fuel 0 cursor
        (max least widest, breaks, cursor)
  let block := blockLines fold indent fuel breaks cursor
  let closing := match header.chomping with
    | .strip => []
    | .clip => block.lineBreak
    | .keep => block.lineBreak ++ block.breaks
  .ok (block.text ++ closing, block.cursor)

end StubForge.Yaml
