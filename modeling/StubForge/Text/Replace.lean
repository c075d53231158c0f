import StubForge.Text.Char

set_option autoImplicit false

/-!
Finding one text in another: replacing all occurrences, splitting at them, and counting them.
Occurrences are taken from the left and do not overlap.
-/

namespace StubForge.Text

def breakAt? (part : List Char) : List Char → Option (List Char × List Char)
  | [] => none
  | c :: rest =>
      match stripLeading? part (c :: rest) with
      | some after => some ([], after)
      | none => (breakAt? part rest).map fun (before, after) => (c :: before, after)

-- Splits at the first occurrences of a part, at most `limit` times.
def splitParts (part : List Char) : Nat → List Char → List (List Char)
  | 0, s => [s]
  | limit + 1, s =>
      match breakAt? part s with
      | some (before, after) => before :: splitParts part limit after
      | none => [s]

-- Puts a text before each of the first characters, and behind the last one if the limit allows.
def intersperse (new : List Char) : Nat → List Char → List Char
  | 0, s => s
  | _ + 1, [] => new
  | limit + 1, c :: rest => new ++ c :: intersperse new limit rest

def replaceChars (old new : List Char) (limit : Option Nat) (s : List Char) : List Char :=
  let limit := limit.getD (s.length + 1)
  if old.isEmpty then intersperse new limit s else joinWith new (splitParts old limit s)

def replace (old new s : String) : String :=
  String.ofList (replaceChars old.toList new.toList none s.toList)

def words (s : List Char) : List (List Char) := wordsFrom [] s
where
  wordsFrom (current : List Char) : List Char → List (List Char)
    | [] => if current.isEmpty then [] else [current.reverse]
    | c :: rest =>
        if isBlank c then
          if current.isEmpty then wordsFrom [] rest else current.reverse :: wordsFrom [] rest
        else wordsFrom (c :: current) rest

end StubForge.Text
