import StubForge.Text.Table

set_option autoImplicit false

/-!
Character classes and the first text operations on lists of characters: splitting, joining, and
reading a text line by line.
-/

namespace StubForge.Text

def inRanges (table : List (Nat × Nat)) (c : Char) : Bool :=
  table.any fun range => range.1 ≤ c.toNat && c.toNat ≤ range.2

def startsIdentifier (c : Char) : Bool :=
  if c.toNat < 128 then c.isAlpha || c == '_' else inRanges Table.identifierStart c

def continuesIdentifier (c : Char) : Bool :=
  if c.toNat < 128 then c.isAlphanum || c == '_'
  else inRanges Table.identifierStart c || inRanges Table.identifierExtend c

def isIdentifierChars : List Char → Bool
  | [] => false
  | c :: rest => startsIdentifier c && rest.all continuesIdentifier

def isIdentifier (s : String) : Bool := isIdentifierChars s.toList

def isPrintable (c : Char) : Bool :=
  if c.toNat < 128 then 32 ≤ c.toNat && c.toNat < 127 else !inRanges Table.unprintable c

-- White space of Unicode, the four information separators included.
def isBlank (c : Char) : Bool :=
  let n := c.toNat
  (9 ≤ n && n ≤ 13) || (28 ≤ n && n ≤ 32) || n == 0x85 || n == 0xa0 || n == 0x1680
    || (0x2000 ≤ n && n ≤ 0x200a) || n == 0x2028 || n == 0x2029 || n == 0x202f || n == 0x205f
    || n == 0x3000

def isAsciiBlank (c : Char) : Bool :=
  let n := c.toNat
  (9 ≤ n && n ≤ 13) || n == 32

def digitValue? (c : Char) : Option Nat :=
  let n := c.toNat
  if n < 128 then if c.isDigit then some (n - 48) else none
  else (Table.decimalZero.find? fun first => first ≤ n && n < first + 10).map (n - ·)

-- Characters that end a line; a carriage return followed by a line feed is one ending.
def isLineBreak (c : Char) : Bool :=
  let n := c.toNat
  (10 ≤ n && n ≤ 13) || (28 ≤ n && n ≤ 30) || n == 0x85 || n == 0x2028 || n == 0x2029

def splitLinesFrom (current : List Char) : List Char → List (List Char)
  | [] => if current.isEmpty then [] else [current.reverse]
  | '\r' :: '\n' :: rest => current.reverse :: splitLinesFrom [] rest
  | c :: rest =>
      if isLineBreak c then current.reverse :: splitLinesFrom [] rest
      else splitLinesFrom (c :: current) rest

def splitLines (s : String) : List String := (splitLinesFrom [] s.toList).map String.ofList

-- Splits at every occurrence of one character; there is always at least one piece.
def splitAt (separator : Char) : List Char → List (List Char)
  | [] => [[]]
  | c :: rest =>
      match splitAt separator rest with
      | [] => [[c]]
      | piece :: pieces => if c = separator then [] :: piece :: pieces else (c :: piece) :: pieces

def joinWith (separator : List Char) : List (List Char) → List Char
  | [] => []
  | [piece] => piece
  | piece :: pieces => piece ++ separator ++ joinWith separator pieces

def join (separator : String) : List String → String
  | [] => ""
  | [piece] => piece
  | piece :: pieces => piece ++ separator ++ join separator pieces

def trimChars (blank : Char → Bool) (s : List Char) : List Char :=
  ((s.dropWhile blank).reverse.dropWhile blank).reverse

def stripLeading? : List Char → List Char → Option (List Char)
  | [], s => some s
  | _ :: _, [] => none
  | p :: ps, c :: cs => if p = c then stripLeading? ps cs else none

def startsWithChars (lead s : List Char) : Bool := (stripLeading? lead s).isSome

-- Every carriage return, alone or before a line feed, becomes one line feed.
def unifyNewlines : List Char → List Char
  | [] => []
  | '\r' :: '\n' :: rest => '\n' :: unifyNewlines rest
  | '\r' :: rest => '\n' :: unifyNewlines rest
  | c :: rest => c :: unifyNewlines rest

def padLeft (width : Nat) (fill : Char) (s : List Char) : List Char :=
  List.replicate (width - s.length) fill ++ s

-- Equality of a text with a lower-case ASCII word, ignoring case; the long s counts as an s.
def matchesWord (word : String) (s : String) : Bool :=
  s.toList.map (fun c => if c = 'ſ' then 's' else c.toLower) == word.toList

theorem split_at_ne_nil (separator : Char) (s : List Char) : splitAt separator s ≠ [] := by
  cases s with
  | nil => simp [splitAt]
  | cons c rest =>
      rw [splitAt]
      split
      · simp
      · split <;> simp

theorem strip_leading_eq_some (lead s rest : List Char) :
    stripLeading? lead s = some rest ↔ s = lead ++ rest := by
  induction lead generalizing s with
  | nil => simp [stripLeading?, eq_comm]
  | cons p ps ih =>
      cases s with
      | nil => simp [stripLeading?]
      | cons c cs =>
          by_cases same : p = c
          · subst same
            simp [stripLeading?, ih]
          · simp [stripLeading?, same, Ne.symm same]

theorem join_split_at (separator : Char) (s : List Char) :
    joinWith [separator] (splitAt separator s) = s := by
  induction s with
  | nil => rfl
  | cons c rest ih =>
      rw [splitAt]
      cases pieces : splitAt separator rest with
      | nil => exact absurd pieces (split_at_ne_nil separator rest)
      | cons piece more =>
          rw [pieces] at ih
          by_cases same : c = separator
          · subst same
            simpa [joinWith] using ih
          · cases more with
            | nil => simpa [same, joinWith] using ih
            | cons next others => simpa [same, joinWith] using ih

theorem to_list_join (separator : String) (parts : List String) :
    (join separator parts).toList = joinWith separator.toList (parts.map String.toList) := by
  induction parts with
  | nil => rfl
  | cons part rest ih =>
      cases rest with
      | nil => rfl
      | cons next others => simpa [join, joinWith] using ih

end StubForge.Text
