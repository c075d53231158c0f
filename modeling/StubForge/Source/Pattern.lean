import StubForge.Source.Expression

set_option autoImplicit false

/-!
Patterns of the cases of a match statement. They are only recognised.
-/

namespace StubForge.Source

open Parse

section
variable (self : Parse Unit) (expressions : Rules)

def captureName : Parse Unit := do
  let name ← identifier
  if name = "_" then failure
  else if (← isMarkNext ".") || (← isMarkNext "(") || (← isMarkNext "=") then failure

def plainNumber : Parse Bool := fun ts =>
  match ts with
  | .number _ imaginary :: rest => some (imaginary, rest)
  | _ => none

def numberPattern : Parse Unit := do
  let _ ← mark "-"
  let imaginary ← plainNumber
  if (← mark "+") || (← mark "-") then
    let second ← plainNumber
    if imaginary || !second then failure

def constantWord : Parse Unit := needWord "None" <|> needWord "True" <|> needWord "False"

def literalPattern : Parse Unit := do
  match ← peek? with
  | some (.text _) => do
      let _ ← texts expressions
  | some (.number _ _) => numberPattern
  | some (.op "-") => numberPattern
  | _ => constantWord

def dottedRest : Parse Bool := do
  let more ← many (do needMark "."; identifier)
  return !more.isEmpty

inductive ClassPart where
  | positional
  | named

def classPart : Parse ClassPart := do
  match ← peek?, ← peekSecond? with
  | some (.name _), some (.op "=") => do
      let _ ← identifier
      needMark "="
      self
      return .named
  | _, _ => do
      self
      return .positional

def areClassParts (named : Bool) : List ClassPart → Bool
  | [] => true
  | .positional :: rest => !named && areClassParts named rest
  | .named :: rest => areClassParts true rest

def classParts : Parse Unit := do
  needMark "("
  if ← mark ")" then pure ()
  else
    let (found, _) ← commaList (classPart self)
    needMark ")"
    if areClassParts false found then pure () else failure

def namePattern : Parse Unit := do
  let name ← identifier
  if name = "_" then pure ()
  else
    let dotted ← dottedRest
    if ← isMarkNext "(" then classParts self
    else if ← isMarkNext "=" then failure
    else if dotted then pure ()

def starredPart : Parse Unit := do
  needMark "*"
  needWord "_" <|> captureName

def sequencePart : Parse Unit := do
  if ← isMarkNext "*" then starredPart else self

def mapKey : Parse Unit := do
  literalPattern expressions <|> (do
    let _ ← identifier
    if ← dottedRest then pure () else failure)

inductive MapPart where
  | entry
  | rest

def mapPart : Parse MapPart := do
  if ← mark "**" then
    captureName
    return .rest
  else
    mapKey expressions
    needMark ":"
    self
    return .entry

def areMapParts : List MapPart → Bool
  | [] => true
  | [.rest] => true
  | .entry :: more => areMapParts more
  | .rest :: _ => false

def mapPattern : Parse Unit := do
  needMark "\x7b"
  if ← mark "\x7d" then pure ()
  else
    let (found, _) ← commaList (mapPart self expressions)
    needMark "\x7d"
    if areMapParts found then pure () else failure

-- A group holds one pattern, a sequence any number of them.
def parenthesised : Parse Unit := do
  needMark "("
  if ← mark ")" then pure ()
  else
    let starred ← isMarkNext "*"
    let (found, comma) ← commaList (sequencePart self)
    needMark ")"
    if starred && found.length == 1 && !comma then failure

def bracketed : Parse Unit := do
  needMark "["
  if ← mark "]" then pure ()
  else
    let _ ← commaList (sequencePart self)
    needMark "]"

def closedPattern : Parse Unit := do
  match ← peek? with
  | some (.op "(") => parenthesised self
  | some (.op "[") => bracketed self
  | some (.op "\x7b") => mapPattern self expressions
  | some (.name text) => if keywords.contains text then constantWord else namePattern self
  | _ => literalPattern expressions

def alternativesPattern : Parse Unit := do
  closedPattern self expressions
  let _ ← many (do needMark "|"; closedPattern self expressions)
  if ← word "as" then captureName

end

def patternOf (expressions : Rules) : Nat → Parse Unit
  | 0 => failure
  | depth + 1 => alternativesPattern (patternOf expressions depth) expressions

def casePatterns (pattern : Parse Unit) : Parse Unit := do
  let starred ← isMarkNext "*"
  let (found, comma) ← commaList (sequencePart pattern)
  if starred && found.length == 1 && !comma then failure

end StubForge.Source
