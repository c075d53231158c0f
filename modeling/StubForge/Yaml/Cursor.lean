import StubForge.Text.Char
import StubForge.Failure

set_option autoImplicit false

/-!
A place in a settings document: what is left to read, and the line and column reached. A byte order
mark has no width.
-/

namespace StubForge.Yaml

-- Why a document cannot be read: it is malformed, or one of its scalars is out of range.
inductive Fault where
  | malformed
  | mishap (mishap : Mishap)

def Fault.raised (kind message : String) : Fault := .mishap { kind, message }

structure Cursor where
  rest : List Char
  index : Nat := 0
  line : Nat := 0
  column : Nat := 0

-- What stands at the end of a document, where no character is left.
def ending : Char := '\x00'

def byteMark : Char := '\ufeff'

def isBreak (c : Char) : Bool :=
  c = '\n' || c = '\r' || c = '\x85' || c = '\u2028' || c = '\u2029'

def isBreakOrEnd (c : Char) : Bool := c = ending || isBreak c

def isSpaceOrEnd (c : Char) : Bool := c = ' ' || isBreakOrEnd c

def isBlankOrEnd (c : Char) : Bool := c = '\t' || isSpaceOrEnd c

def isWordChar (c : Char) : Bool := c.isAlphanum || c = '-' || c = '_'

namespace Cursor

def look (n : Nat) (cursor : Cursor) : Char := (cursor.rest[n]?).getD ending

def head (cursor : Cursor) : Char := cursor.look 0

def atEnd (cursor : Cursor) : Bool := cursor.rest.isEmpty

def step (cursor : Cursor) : Cursor :=
  match cursor.rest with
  | [] => cursor
  | c :: rest =>
      let index := cursor.index + 1
      if isBreak c && !(c = '\r' && rest.head? = some '\n') then
        { rest, index, line := cursor.line + 1, column := 0 }
      else { rest, index, line := cursor.line, column := cursor.column + if c = byteMark then 0 else 1 }

def skip : Nat → Cursor → Cursor
  | 0, cursor => cursor
  | n + 1, cursor => skip n cursor.step

def takeWhile (wanted : Char → Bool) (cursor : Cursor) : List Char × Cursor :=
  let run := cursor.rest.takeWhile wanted
  (run, cursor.skip run.length)

def dropWhile (wanted : Char → Bool) (cursor : Cursor) : Cursor := (cursor.takeWhile wanted).2

def dropSpaces (cursor : Cursor) : Cursor := cursor.dropWhile (· = ' ')

def restOfLine (cursor : Cursor) : List Char × Cursor := cursor.takeWhile fun c => !isBreakOrEnd c

-- Reads one line end, if one is there: all of them count as a line feed, but for the separators of lines and
-- paragraphs, which stay.
def lineBreak (cursor : Cursor) : List Char × Cursor :=
  match cursor.rest with
  | '\r' :: '\n' :: _ => (['\n'], cursor.skip 2)
  | c :: _ =>
      if c = '\u2028' || c = '\u2029' then ([c], cursor.step)
      else if isBreak c then (['\n'], cursor.step)
      else ([], cursor)
  | [] => ([], cursor)

-- Three characters of a kind that begin or end a document stand here, and nothing follows them.
def atMark (mark : Char) (cursor : Cursor) : Bool :=
  cursor.look 0 == mark && cursor.look 1 == mark && cursor.look 2 == mark
    && isBlankOrEnd (cursor.look 3)

def atDocumentMark (cursor : Cursor) : Bool := cursor.atMark '-' || cursor.atMark '.'

def finishLine (cursor : Cursor) : Except Fault Cursor :=
  let cursor := cursor.dropSpaces
  let cursor := if cursor.head = '#' then cursor.restOfLine.2 else cursor
  if isBreakOrEnd cursor.head then .ok cursor.lineBreak.2 else .error .malformed

end Cursor

end StubForge.Yaml
