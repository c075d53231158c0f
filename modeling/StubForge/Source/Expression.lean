import StubForge.Source.Literal
import StubForge.Json

set_option autoImplicit false

/-!
Expressions of module sources. Only the forms that decide what can be assigned to, what a class is
made of and which constants a module holds are kept apart; all others are recognised and dropped.
-/

namespace StubForge.Source

inductive Expr where
  | name (text : String)
  | attribute (of : Expr) (name : String)
  | subscript (of : Expr)
  | tuple (items : List Expr)
  | list (items : List Expr)
  | starred (of : Expr)
  | call (callee : Expr) (args : List Expr) (named : List (String × Expr))
  | constant (value : Json)
  | other
  deriving Inhabited

def Expr.isStarred : Expr → Bool
  | .starred _ => true
  | _ => false

/-! ### What can be assigned to -/

mutual
-- Assignment takes a tuple or list apart, and one starred part takes what is left over.
def Expr.isTarget : Expr → Bool
  | .name _ => true
  | .attribute _ _ => true
  | .subscript _ => true
  | .tuple items => areTargets items
  | .list items => areTargets items
  | .starred inner => inner.isPlainTarget
  | _ => false
termination_by structural e => e
def Expr.isPlainTarget : Expr → Bool
  | .name _ => true
  | .attribute _ _ => true
  | .subscript _ => true
  | .tuple items => areTargets items
  | .list items => areTargets items
  | _ => false
termination_by structural e => e
def areTargets : List Expr → Bool
  | [] => true
  | e :: rest => e.isTarget && areTargets rest
termination_by structural items => items
end

mutual
def Expr.isRemovable : Expr → Bool
  | .name _ => true
  | .attribute _ _ => true
  | .subscript _ => true
  | .tuple items => areRemovable items
  | .list items => areRemovable items
  | _ => false
termination_by structural e => e
def areRemovable : List Expr → Bool
  | [] => true
  | e :: rest => e.isRemovable && areRemovable rest
termination_by structural items => items
end

-- Annotated and updating assignments take one place only.
def Expr.isSinglePlace : Expr → Bool
  | .name _ => true
  | .attribute _ _ => true
  | .subscript _ => true
  | _ => false

def Expr.dotted? : Expr → Option String
  | .name text => some text
  | .attribute inner member => inner.dotted?.map (· ++ "." ++ member)
  | _ => none

/-! ### Reading tokens -/

abbrev Parse := StateT (List Token) Option

def keywords : List String :=
  ["False", "None", "True", "and", "as", "assert", "async", "await", "break", "class", "continue",
    "def", "del", "elif", "else", "except", "finally", "for", "from", "global", "if", "import", "in",
    "is", "lambda", "nonlocal", "not", "or", "pass", "raise", "return", "try", "while", "with", "yield"]

namespace Parse

def peek? : Parse (Option Token) := fun ts => some (ts.head?, ts)

def peekSecond? : Parse (Option Token) := fun ts => some ((ts.drop 1).head?, ts)

def step : Parse Unit := fun ts => some ((), ts.drop 1)

def accept (token : Token) : Parse Bool := fun ts =>
  match ts with
  | t :: rest => if t = token then some (true, rest) else some (false, ts)
  | [] => some (false, [])

def need (token : Token) : Parse Unit := fun ts =>
  match ts with
  | t :: rest => if t = token then some ((), rest) else none
  | [] => none

def mark (text : String) : Parse Bool := accept (.op text)
def needMark (text : String) : Parse Unit := need (.op text)
def word (text : String) : Parse Bool := accept (.name text)
def needWord (text : String) : Parse Unit := need (.name text)

def isNext (token : Token) : Parse Bool := fun ts => some (ts.head? = some token, ts)
def isMarkNext (text : String) : Parse Bool := isNext (.op text)
def isWordNext (text : String) : Parse Bool := isNext (.name text)

def identifier : Parse String := fun ts =>
  match ts with
  | .name text :: rest => if keywords.contains text then none else some (text, rest)
  | _ => none

def manyFrom {α : Type} (item : Parse α) : Nat → Parse (List α)
  | 0 => failure
  | fuel + 1 => (do
      let first ← item
      return first :: (← manyFrom item fuel)) <|> pure []

def many {α : Type} (item : Parse α) : Parse (List α) := fun ts => manyFrom item (ts.length + 1) ts

def commaList {α : Type} (item : Parse α) : Parse (List α × Bool) := do
  let first ← item
  let rest ← many (do needMark ","; item)
  return (first :: rest, ← mark ",")

end Parse

open Parse

/-! ### Grammar -/

structure Rules where
  expression : Parse Expr
  named : Parse Expr
  stars : Parse Expr
  yielded : Parse Expr
  disjunction : Parse Expr
  operand : Parse Expr
  primary : Parse Expr

section
variable (self : Rules)

-- A list of expressions without brackets: one alone is itself.
def listed (item : Parse Expr) : Parse Expr := do
  let (items, comma) ← commaList item
  match items, comma with
  | [single], false => return single
  | items, _ => return .tuple items

def starOr (starOperand item : Parse Expr) : Parse Expr := do
  if ← mark "*" then return .starred (← starOperand) else item

def arithmeticOperators : List String :=
  ["|", "^", "&", "<<", ">>", "+", "-", "*", "/", "//", "%", "@"]

def operatorIn (texts : List String) : Parse Unit := fun ts =>
  match ts with
  | .op text :: rest => if texts.contains text then some ((), rest) else none
  | _ => none

def arithmetic : Parse Expr := do
  let first ← self.operand
  let more ← many (do operatorIn arithmeticOperators; self.operand)
  return if more.isEmpty then first else .other

def starItem : Parse Expr := starOr (arithmetic self) self.named

def loopTargets : Parse Expr := do
  let target ← listed (starOr self.primary self.primary)
  if target.isTarget then return target else failure

def loopClause : Parse Unit := do
  let _ ← word "async"
  needWord "for"
  let _ ← loopTargets self
  needWord "in"
  let _ ← self.disjunction
  let _ ← many (do needWord "if"; self.disjunction)

def isLoopNext : Parse Bool := do
  return (← isWordNext "for") || (← isWordNext "async")

def loopClauses : Parse Unit := do
  loopClause self
  let _ ← many (loopClause self)

/-! #### Calls -/

inductive Argument where
  | positional (value : Expr)
  | starred
  | named (name : String) (value : Expr)
  | mapped

def argument : Parse Argument := do
  if ← mark "*" then
    let _ ← self.expression
    return .starred
  else if ← mark "**" then
    let _ ← self.expression
    return .mapped
  else
    match ← peek?, ← peekSecond? with
    | some (.name _), some (.op "=") => do
        let name ← identifier
        needMark "="
        return .named name (← self.expression)
    | _, _ => return .positional (← self.named)

-- Plain arguments come first; after a mapping no sequence may be spread.
def areOrdered : Bool → Bool → List Argument → Bool
  | _, _, [] => true
  | named, mapped, .positional _ :: rest => !named && !mapped && areOrdered named mapped rest
  | named, mapped, .starred :: rest => !mapped && areOrdered named mapped rest
  | _, mapped, .named _ _ :: rest => areOrdered true mapped rest
  | _, _, .mapped :: rest => areOrdered true true rest

def callOf (callee : Expr) (args : List Argument) : Expr :=
  .call callee
    (args.filterMap fun a => match a with | .positional e => some e | _ => none)
    (args.filterMap fun a => match a with | .named n e => some (n, e) | _ => none)

def isNamingNext : Parse Bool := do
  match ← peek?, ← peekSecond? with
  | some (.name _), some (.op ":=") => return true
  | _, _ => return false

def argumentsAfter (first : Argument) : Parse (List Argument) := do
  let more ← many (do needMark ","; argument self)
  let _ ← mark ","
  needMark ")"
  if areOrdered false false (first :: more) then return first :: more else failure

def arguments : Parse (List Argument) := do
  if ← mark ")" then return []
  else argumentsAfter self (← argument self)

-- A call's parentheses may also hold one loop expression alone.
def callArguments (callee : Expr) : Parse Expr := do
  if ← mark ")" then return .call callee [] []
  else
    let first ← argument self
    match first, ← isLoopNext with
    | .positional _, true => do
        loopClauses self
        needMark ")"
        return .call callee [] []
    | _, _ => return callOf callee (← argumentsAfter self first)

def slice : Parse Unit := do
  let naming ← isNamingNext
  let start ← (do let _ ← self.named; pure true) <|> pure false
  if naming then
    if start then pure () else failure
  else if ← mark ":" then
    let _ ← self.expression <|> pure .other
    if ← mark ":" then
      let _ ← self.expression <|> pure .other
  else if !start then failure

def indexItem : Parse Unit := do
  if ← mark "*" then
    let _ ← self.expression
  else slice self

/-! #### Atoms -/

def textOf (literals : List TextLiteral) : Option Expr := do
  let isBytes := literals.any (·.isBytes)
  if isBytes && literals.any fun l => !l.isBytes then none
  else
    let isExpression := fun (inner : List Char) =>
      match tokens? ('(' :: inner ++ [')', '\n']) with
      | some ts => (self.stars ts).isSome
      | none => false
    let parts ← literals.mapM fun l =>
      if l.isFormat then
        if isFormatText l.isRaw isExpression l.body && !l.body.contains '\x00' then some [] else none
      else unescape l.isBytes l.isRaw l.body
    if isBytes || literals.any (·.isFormat) then some .other
    else some (.constant (.string (String.ofList parts.flatten)))

def textLiteral : Parse TextLiteral := fun ts =>
  match ts with
  | .text literal :: rest => some (literal, rest)
  | _ => none

def texts : Parse Expr := do
  let first ← textLiteral
  let more ← many textLiteral
  match textOf self (first :: more) with
  | some e => return e
  | none => failure

def digitsValue (digits : List Char) : Nat :=
  digits.foldl (fun total c => 10 * total + (c.toNat - 48)) 0

def numberExpr (digits : List Char) : Expr :=
  if digits.isEmpty then .other else .constant (.int (digitsValue digits))

def afterParenthesis : Parse Expr := do
  if ← mark ")" then return .tuple []
  else if ← isWordNext "yield" then
    let _ ← self.yielded
    needMark ")"
    return .other
  else
    let first ← starItem self
    if ← isLoopNext then
      match first with
      | .starred _ => failure
      | _ =>
          loopClauses self
          needMark ")"
          return .other
    else if ← mark "," then
      let rest ← (do return (← commaList (starItem self)).1) <|> pure []
      needMark ")"
      return .tuple (first :: rest)
    else
      needMark ")"
      match first with
      | .starred _ => failure
      | e => return e

def afterBracket : Parse Expr := do
  if ← mark "]" then return .list []
  else
    let first ← starItem self
    if ← isLoopNext then
      match first with
      | .starred _ => failure
      | _ =>
          loopClauses self
          needMark "]"
          return .other
    else
      let more ← many (do needMark ","; starItem self)
      let _ ← mark ","
      needMark "]"
      return .list (first :: more)

def mapItem : Parse Unit := do
  if ← mark "**" then
    let _ ← arithmetic self
  else
    let _ ← self.expression
    needMark ":"
    let _ ← self.expression

def mapAfterFirst : Parse Expr := do
  let _ ← many (do needMark ","; mapItem self)
  let _ ← mark ","
  needMark "\x7d"
  return .other

def afterBrace : Parse Expr := do
  if ← mark "\x7d" then return .constant (.object [])
  else if ← isMarkNext "**" then
    mapItem self
    mapAfterFirst self
  else
    let naming ← isNamingNext
    let first ← starItem self
    let starred := first.isStarred
    if ← mark ":" then
      if naming || starred then failure
      else
        let _ ← self.expression
        if ← isLoopNext then
          loopClauses self
          needMark "\x7d"
          return .other
        else mapAfterFirst self
    else if ← isLoopNext then
      if starred then failure
      else
        loopClauses self
        needMark "\x7d"
        return .other
    else
      let _ ← many (do needMark ","; starItem self)
      let _ ← mark ","
      needMark "\x7d"
      return .other

def atom : Parse Expr := do
  match ← peek? with
  | some (.name text) =>
      if text = "None" then do step; return .constant .null
      else if text = "True" then do step; return .constant (.bool true)
      else if text = "False" then do step; return .constant (.bool false)
      else return .name (← identifier)
  | some (.text _) => texts self
  | some (.number digits _) => do step; return numberExpr digits
  | some (.op "(") => do step; afterParenthesis self
  | some (.op "[") => do step; afterBracket self
  | some (.op "\x7b") => do step; afterBrace self
  | some (.op "...") => do step; return .other
  | _ => failure

def trailersFrom : Nat → Expr → Parse Expr
  | 0, _ => failure
  | fuel + 1, e => do
      if ← mark "." then
        let name ← identifier
        trailersFrom fuel (.attribute e name)
      else if ← mark "(" then
        let called ← callArguments self e
        trailersFrom fuel called
      else if ← mark "[" then
        let _ ← commaList (indexItem self)
        needMark "]"
        trailersFrom fuel (.subscript e)
      else return e

def primary : Parse Expr := do
  let e ← atom self
  fun ts => trailersFrom self (ts.length + 1) e ts

def negated : Expr → Expr
  | .constant (.int n) => .constant (.int (-n))
  | _ => .other

def power : Parse Expr := do
  let awaited ← word "await"
  let base ← primary self
  if ← mark "**" then
    let _ ← self.operand
    return .other
  else return if awaited then .other else base

def operand : Parse Expr := do
  if ← mark "-" then return negated (← self.operand)
  else if ← mark "+" then do
    let _ ← self.operand
    return .other
  else if ← mark "~" then do
    let _ ← self.operand
    return .other
  else power self

/-! #### Conditions -/

def comparisonMark : Parse Unit :=
  operatorIn ["==", "!=", "<=", "<", ">=", ">"]
  <|> (do needWord "not"; needWord "in")
  <|> needWord "in"
  <|> (do needWord "is"; let _ ← word "not")

-- A module is never the program that runs, so comparing its own name does not hold.
def comparison : Parse Expr := do
  let first ← arithmetic self
  let more ← many (do comparisonMark; arithmetic self)
  if more.isEmpty then return first
  else
    match first with
    | .name "__name__" => return .constant (.bool false)
    | _ => return .other

def inversion : Parse Expr := do
  let nots ← many (needWord "not")
  let e ← comparison self
  match e with
  | .constant (.bool b) =>
      if nots.isEmpty then return e else return .constant (.bool (b != (nots.length % 2 == 1)))
  | _ => if nots.isEmpty then return e else return .other

def conjunction : Parse Expr := do
  let first ← inversion self
  let more ← many (do needWord "and"; inversion self)
  return if more.isEmpty then first else .other

def disjunction : Parse Expr := do
  let first ← conjunction self
  let more ← many (do needWord "or"; conjunction self)
  return if more.isEmpty then first else .other

/-! #### Parameters -/

structure ParameterStyle where
  closing : String
  annotated : Bool

inductive Parameter where
  | plain (hasDefault : Bool)
  | slash
  | star
  | variadic
  | keywords

def annotation (style : ParameterStyle) (mayStar : Bool) : Parse Unit := do
  if style.annotated then
    if ← mark ":" then
      if mayStar then
        let _ ← starOr (arithmetic self) self.expression
      else
        let _ ← self.expression

def parameter (style : ParameterStyle) : Parse Parameter := do
  if ← mark "/" then return .slash
  else if ← mark "**" then
    let _ ← identifier
    annotation self style false
    return .keywords
  else if ← mark "*" then
    if ← isMarkNext "," then return .star
    else
      let _ ← identifier
      annotation self style true
      return .variadic
  else
    let _ ← identifier
    annotation self style false
    if ← mark "=" then
      let _ ← self.expression
      return .plain true
    else return .plain false

-- Parameters after a star, of which the bare one needs at least one.
def areNamedOnly (needsOne : Bool) : List Parameter → Bool
  | [] => !needsOne
  | [.keywords] => !needsOne
  | .plain _ :: rest => areNamedOnly false rest
  | _ => false

-- The order of parameters: no plain one without a default after one with a default, a slash at most once and
-- not first, one star at most, and keywords last.
def areParameters (slashAllowed defaulted : Bool) : List Parameter → Bool
  | [] => true
  | [.keywords] => true
  | .plain hasDefault :: rest =>
      (hasDefault || !defaulted) && areParameters slashAllowed (defaulted || hasDefault) rest
  | .slash :: rest => slashAllowed && areParameters false defaulted rest
  | .star :: rest => areNamedOnly true rest
  | .variadic :: rest => areNamedOnly false rest
  | .keywords :: _ => false

def parameters (style : ParameterStyle) : Parse Unit := do
  if ← isMarkNext style.closing then pure ()
  else
    let (found, _) ← commaList (parameter self style)
    match found with
    | .slash :: _ => failure
    | _ => if areParameters true false found then pure () else failure

def lambdaExpr : Parse Expr := do
  needWord "lambda"
  parameters self { closing := ":", annotated := false }
  needMark ":"
  let _ ← self.expression
  return .other

def expression : Parse Expr := do
  if ← isWordNext "lambda" then lambdaExpr self
  else
    let first ← disjunction self
    if ← word "if" then
      let _ ← disjunction self
      needWord "else"
      let _ ← self.expression
      return .other
    else return first

def named : Parse Expr := do
  match ← peek?, ← peekSecond? with
  | some (.name _), some (.op ":=") => do
      let _ ← identifier
      needMark ":="
      let _ ← self.expression
      return .other
  | _, _ => expression self

def stars : Parse Expr := listed (starOr (arithmetic self) (expression self))

def yielded : Parse Expr := do
  needWord "yield"
  if ← word "from" then
    let _ ← self.expression
    return .other
  else
    let _ ← stars self <|> pure .other
    return .other

end

def noRules : Rules :=
  { expression := failure, named := failure, stars := failure, yielded := failure
    disjunction := failure, operand := failure, primary := failure }

def rulesOf : Nat → Rules
  | 0 => noRules
  | depth + 1 =>
      let inner := rulesOf depth
      { expression := expression inner, named := named inner, stars := stars inner
        yielded := yielded inner, disjunction := disjunction inner, operand := operand inner
        primary := primary inner }

end StubForge.Source
