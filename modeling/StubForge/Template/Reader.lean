import StubForge.Template.Syntax
import StubForge.Template.Token

set_option autoImplicit false

/-!
Reading templates from their tokens. A template that cannot be read is answered by the line of the
first token that does not fit.
-/

namespace StubForge.Template

structure Stream where
  tokens : List Token
  line : Nat := 1

abbrev Parse := StateT Stream (Except Nat)

namespace Parse

def failAt {α : Type} (line : Nat) : Parse α := throw line

def current? : Parse (Option Piece) := do return (← get).tokens.head?.map (·.piece)

-- At the end of the template this is the line of its last token.
def line : Parse Nat := do
  let stream ← get
  return (stream.tokens.head?.map (·.line)).getD stream.line

def fail {α : Type} : Parse α := do failAt (← line)

def refuseBad (tokens : List Token) : Parse Unit :=
  match tokens with
  | ⟨line, .bad⟩ :: _ => failAt line
  | _ => pure ()

def advance : Parse Unit := do
  let stream ← get
  match stream.tokens with
  | [] => pure ()
  | token :: rest => do
      refuseBad rest
      set ({ tokens := rest, line := token.line } : Stream)

def next? : Parse (Option Piece) := do
  let rest := (← get).tokens.drop 1
  refuseBad rest
  return rest.head?.map (·.piece)

def isNext (piece : Piece) : Parse Bool := do return (← current?) == some piece

def isOp (text : String) : Parse Bool := isNext (.op text)
def isWord (text : String) : Parse Bool := isNext (.name text)

def accept (piece : Piece) : Parse Bool := do
  if ← isNext piece then
    advance
    return true
  else return false

def op (text : String) : Parse Bool := accept (.op text)
def word (text : String) : Parse Bool := accept (.name text)

def need (piece : Piece) : Parse Unit := do
  if ← accept piece then pure () else fail

def needOp (text : String) : Parse Unit := need (.op text)
def needWord (text : String) : Parse Unit := need (.name text)

def name : Parse String := do
  match ← current? with
  | some (.name text) => do
      advance
      return text
  | _ => fail

-- Repeats a step with a state while it asks to go on; there are at most as many steps as tokens.
def repeatFrom {σ : Type} (step : σ → Parse (σ × Bool)) : Nat → σ → Parse σ
  | 0, _ => fail
  | fuel + 1, state => do
      let (state, more) ← step state
      if more then repeatFrom step fuel state else return state

def iterate {σ : Type} (step : σ → Parse (σ × Bool)) (state : σ) : Parse σ := do
  let stream ← get
  repeatFrom step (stream.tokens.length + 2) state

end Parse

open Parse

/-! ### Expressions -/

structure Rules where
  expression : Parse Expr
  notExpr : Parse Expr
  unary : Bool → Parse Expr

def noRules : Rules :=
  { expression := fail, notExpr := fail, unary := fun _ => fail }

section
variable (self : Rules)

structure Arguments where
  plain : List Expr := []
  named : List (String × Expr) := []

def argument (start : Nat) (found : Arguments) : Parse Arguments := do
  let naming ← (do
    match ← current? with
    | some (.name _) => do return (← next?) == some (.op "=")
    | _ => return false)
  if naming then
    let key ← name
    advance
    let value ← self.expression
    return { found with named := found.named ++ [(key, value)] }
  else if !found.named.isEmpty then failAt start
  else
    let value ← self.expression
    return { found with plain := found.plain ++ [value] }

def arguments : Parse Arguments := do
  let start ← line
  needOp "("
  let found ← iterate (fun (found : Arguments × Bool) => do
    if ← isOp ")" then return (found, false)
    else
      if found.2 then needOp ","
      if found.2 && (← isOp ")") then return (found, false)
      else return ((← argument self start found.1, true), true)) ({}, false)
  needOp ")"
  return found.1

def enclosedList {α : Type} (closing : String) (item : Parse α) : Parse (List α) := do
  let found ← iterate (fun (found : List α) => do
    if ← isOp closing then return (found, false)
    else
      if !found.isEmpty then needOp ","
      if ← isOp closing then return (found, false)
      else return (found ++ [← item], true)) []
  needOp closing
  return found

def entry : Parse (Expr × Expr) := do
  let key ← self.expression
  needOp ":"
  return (key, ← self.expression)

def isListEnd (words : List String) : Parse Bool := do
  match ← current? with
  | some .closeOutput => return true
  | some .closeTag => return true
  | some (.op ")") => return true
  | some (.name text) => return words.contains text
  | _ => return false

-- One value, or several with commas between them; none at all only between parentheses.
def values (item : Parse Expr) (endWords : List String) (mayBeEmpty : Bool) : Parse Expr := do
  let (found, many) ← iterate (fun (found : List Expr × Bool) => do
    if !found.1.isEmpty then needOp ","
    if ← isListEnd endWords then return (found, false)
    else
      let value ← item
      let comma ← isOp ","
      return ((found.1 ++ [value], found.2 || comma), comma)) ([], false)
  match found, many with
  | [single], false => return single
  | [], _ => if mayBeEmpty then return .tuple [] else fail
  | items, _ => return .tuple items

def primary : Parse Expr := do
  match ← current? with
  | some (.name text) => do
      advance
      if text = "true" || text = "True" then return .constant (.bool true)
      else if text = "false" || text = "False" then return .constant (.bool false)
      else if text = "none" || text = "None" then return .constant .null
      else return .name text
  | some (.text value) => do
      advance
      let parts ← iterate (fun (parts : List String) => do
        match ← current? with
        | some (.text more) => do
            advance
            return (parts ++ [more], true)
        | _ => return (parts, false)) [value]
      return .constant (.string (String.join parts))
  | some (.int value) => do
      advance
      return .constant (.int value)
  | some (.float value) => do
      advance
      return .constant (.float value)
  | some (.op "(") => do
      advance
      let value ← values self.expression [] true
      needOp ")"
      return value
  | some (.op "[") => do
      advance
      return .list (← enclosedList "]" self.expression)
  | some (.op "\x7b") => do
      advance
      return .dictionary (← enclosedList "\x7d" (entry self))
  | _ => fail

def member (of : Expr) : Parse Expr := do
  match ← current? with
  | some (.name text) => do
      advance
      return .attribute of text
  | some (.int value) => do
      advance
      return .item of (.constant (.int value))
  | _ => do
      let line ← line
      advance
      failAt line

def subscript (of : Expr) : Parse Expr := do
  let keys ← iterate (fun (keys : List Expr) => do
    if ← isOp "]" then return (keys, false)
    else
      if !keys.isEmpty then needOp ","
      return (keys ++ [← self.expression], true)) []
  needOp "]"
  match keys with
  | [key] => return .item of key
  | keys => return .item of (.tuple keys)

def callOf (callee : Expr) : Parse Expr := do
  let args ← arguments self
  return .call callee args.plain args.named

def postfixes (start : Expr) : Parse Expr :=
  iterate (fun e => do
    if ← op "." then return (← member e, true)
    else if ← op "[" then return (← subscript self e, true)
    else if ← isOp "(" then return (← callOf self e, true)
    else return (e, false)) start

def dottedName : Parse String := do
  let first ← name
  iterate (fun text => do
    if ← op "." then return (text ++ "." ++ (← name), true) else return (text, false)) first

def filterOf (value : Expr) : Parse Expr := do
  let line ← line
  let filter ← dottedName
  if ← isOp "(" then
    let args ← arguments self
    return .filtered value filter args.plain args.named line
  else return .filtered value filter [] [] line

def startsArgument : Parse Bool := do
  match ← current? with
  | some (.name text) => return !(["else", "or", "and"].contains text)
  | some (.text _) => return true
  | some (.int _) => return true
  | some (.float _) => return true
  | some (.op text) => return ["[", "\x7b"].contains text
  | _ => return false

def testOf (value : Expr) : Parse Expr := do
  let line ← line
  needWord "is"
  let negated ← word "not"
  let test ← dottedName
  let args ← (do
    if ← isOp "(" then return (← arguments self).plain
    else if ← startsArgument then
      if ← isWord "is" then fail
      else return [← postfixes self (← primary self)]
    else return [])
  let tested := Expr.tested value test args line
  return if negated then .negation tested else tested

def filters (start : Expr) : Parse Expr :=
  iterate (fun e => do
    if ← op "|" then return (← filterOf self e, true)
    else if ← isWord "is" then return (← testOf self e, true)
    else if ← isOp "(" then return (← callOf self e, true)
    else return (e, false)) start

def unary (withFilters : Bool) : Parse Expr := do
  let start ← (do
    if ← op "-" then return .minus (← self.unary false)
    else if ← op "+" then return .plus (← self.unary false)
    else primary self)
  let value ← postfixes self start
  if withFilters then filters self value else return value

def leftGrouped (operand : Parse Expr) (operators : List (String × BinaryOp)) : Parse Expr := do
  let first ← operand
  iterate (fun left => do
    match ← current? with
    | some (.op text) =>
        match operators.find? fun entry => entry.1 == text with
        | some (_, operator) => do
            advance
            return (.binary operator left (← operand), true)
        | none => return (left, false)
    | _ => return (left, false)) first

def powers : Parse Expr := leftGrouped (unary self true) [("**", .power)]

def products : Parse Expr :=
  leftGrouped (powers self) [("*", .mul), ("/", .div), ("//", .floorDiv), ("%", .modulo)]

def joins : Parse Expr := do
  let first ← products self
  let parts ← iterate (fun (parts : List Expr) => do
    if ← op "~" then return (parts ++ [← products self], true) else return (parts, false)) [first]
  match parts with
  | [single] => return single
  | parts => return .joined parts

def sums : Parse Expr := leftGrouped (joins self) [("+", .add), ("-", .sub)]

def relations : List (String × Relation) :=
  [("==", .equal), ("!=", .unequal), ("<", .less), ("<=", .lessEqual), (">", .greater),
    (">=", .greaterEqual)]

def relation? : Parse (Option Relation) := do
  match ← current? with
  | some (.op text) =>
      match relations.find? fun entry => entry.1 == text with
      | some (_, found) => do
          advance
          return some found
      | none => return none
  | some (.name "in") => do
      advance
      return some .member
  | some (.name "not") => do
      if (← next?) == some (.name "in") then
        advance
        advance
        return some .notMember
      else return none
  | _ => return none

def comparisons : Parse Expr := do
  let first ← sums self
  let rest ← iterate (fun (rest : List (Relation × Expr)) => do
    match ← relation? with
    | some found => return (rest ++ [(found, ← sums self)], true)
    | none => return (rest, false)) []
  if rest.isEmpty then return first else return .compared first rest

def notExpr : Parse Expr := do
  if ← word "not" then return .negation (← self.notExpr) else comparisons self

def ands : Parse Expr := do
  let first ← notExpr self
  iterate (fun left => do
    if ← word "and" then return (.both left (← notExpr self), true) else return (left, false)) first

def ors : Parse Expr := do
  let first ← ands self
  iterate (fun left => do
    if ← word "or" then return (.either left (← ands self), true) else return (left, false)) first

def expression : Parse Expr := do
  let start ← line
  let first ← ors self
  let (value, _) ← iterate (fun ((value, start) : Expr × Nat) => do
    if ← word "if" then
      let condition ← ors self
      if ← word "else" then
        let alternative ← self.expression
        return ((.choice condition value alternative, ← line), true)
      else return ((.guarded condition value start, ← line), true)
    else return ((value, start), false)) (first, start)
  return value

end

def rulesOf : Nat → Rules
  | 0 => noRules
  | depth + 1 =>
      let inner := rulesOf depth
      { expression := expression inner, notExpr := notExpr inner, unary := unary inner }

/-! ### Statements -/

section
variable (self : Rules) (block : List String → Parse (List Stmt))

mutual
def targetOf? : Expr → Option Target
  | .name text => some (.name text)
  | .tuple items => (targetsOf? items).map .tuple
  | _ => none
termination_by structural e => e
def targetsOf? : List Expr → Option (List Target)
  | [] => some []
  | e :: rest => do return (← targetOf? e) :: (← targetsOf? rest)
termination_by structural items => items
end

def assignTarget (endWords : List String) : Parse Target := do
  let start ← line
  let e ← values (primary self) endWords false
  match targetOf? e with
  | some target => return target
  | none => failAt start

def reservedNames : List String := ["true", "false", "none", "True", "False", "None"]

def newName : Parse String := do
  let start ← line
  let text ← name
  if reservedNames.contains text then failAt start else return text

def bodyUpTo (words : List String) : Parse (List Stmt) := do
  let _ ← op ":"
  need .closeTag
  let body ← block words
  match ← current? with
  | none => fail
  | some _ => return body

def wholeBody (word : String) : Parse (List Stmt) := do
  let body ← bodyUpTo block [word]
  advance
  return body

def values' (endWords : List String) : Parse Expr := values (ors self) endWords false

def loopStmt : Parse (List Stmt) := do
  needWord "for"
  let target ← assignTarget self ["in"]
  needWord "in"
  let items ← values' self ["recursive"]
  let test ← (do
    if ← word "if" then self.expression else return .constant (.bool true))
  let _ ← word "recursive"
  let body ← bodyUpTo block ["endfor", "else"]
  if ← word "endfor" then return [.loop target items test body []]
  else
    advance
    return [.loop target items test body (← wholeBody block "endfor")]

def branchStmt : Parse (List Stmt) := do
  needWord "if"
  let (branches, last) ← iterate (fun ((branches, _) : List (Expr × List Stmt) × List Stmt) => do
    let condition ← values' self []
    let body ← bodyUpTo block ["elif", "else", "endif"]
    let branches := branches ++ [(condition, body)]
    if ← word "elif" then return ((branches, []), true)
    else if ← word "else" then return ((branches, ← wholeBody block "endif"), false)
    else
      advance
      return ((branches, []), false)) ([], [])
  return branches.foldr (fun (condition, body) orelse => [.branch condition body orelse]) last

def assignStmt : Parse (List Stmt) := do
  needWord "set"
  let dotted := (← next?) == some (.op ".")
  let target ← (do
    if dotted then
      let text ← name
      advance
      return .name (text ++ "." ++ (← name))
    else assignTarget self [])
  if ← op "=" then return [.assign target (← values self.expression [] false)]
  else return [.capture target (← wholeBody block "endset")]

structure Parameters where
  names : List String := []
  defaults : List Expr := []

def parameters : Parse Parameters := do
  needOp "("
  let found ← iterate (fun (found : Parameters) => do
    if ← isOp ")" then return (found, false)
    else
      if !found.names.isEmpty then needOp ","
      let text ← newName
      let names := found.names ++ [text]
      if ← op "=" then
        return ({ names, defaults := found.defaults ++ [← self.expression] }, true)
      else if !found.defaults.isEmpty then fail
      else return ({ found with names }, true)) {}
  needOp ")"
  return found

def defineStmt : Parse (List Stmt) := do
  needWord "macro"
  let text ← newName
  let found ← parameters self
  return [.define text found.names found.defaults (← wholeBody block "endmacro")]

def insertStmt : Parse (List Stmt) := do
  needWord "include"
  let template ← self.expression
  let ignoreMissing ← (do
    if (← isWord "ignore") && (← next?) == some (.name "missing") then
      advance
      advance
      return true
    else return false)
  let withContext ← (do
    if ((← isWord "with") || (← isWord "without")) && (← next?) == some (.name "context") then
      let found ← isWord "with"
      advance
      advance
      return found
    else return true)
  return [.insert template ignoreMissing withContext]

def scopedStmt : Parse (List Stmt) := do
  needWord "with"
  let bindings ← iterate (fun (bindings : List (Target × Expr)) => do
    if ← isNext .closeTag then return (bindings, false)
    else
      if !bindings.isEmpty then needOp ","
      let target ← assignTarget self []
      needOp "="
      return (bindings ++ [(target, ← self.expression)], true)) []
  return [.scoped bindings (← wholeBody block "endwith")]

def printStmt : Parse (List Stmt) := do
  needWord "print"
  iterate (fun (found : List Stmt) => do
    if ← isNext .closeTag then return (found, false)
    else
      if !found.isEmpty then needOp ","
      return (found ++ [.output (← self.expression)], true)) []

def blockStmt : Parse (List Stmt) := do
  needWord "block"
  let text ← newName
  let _ ← word "scoped"
  let _ ← word "required"
  let body ← wholeBody block "endblock"
  let _ ← word text
  return [.scoped [] body]

def statement : Parse (List Stmt) := do
  match ← current? with
  | some (.name "for") => loopStmt self block
  | some (.name "if") => branchStmt self block
  | some (.name "set") => assignStmt self block
  | some (.name "macro") => defineStmt self block
  | some (.name "include") => insertStmt self
  | some (.name "with") => scopedStmt self block
  | some (.name "print") => printStmt self
  | some (.name "block") => blockStmt block
  | _ => fail

-- Statements up to the end of the template, or up to a tag that starts with one of some words.
def statements (words : List String) : Parse (List Stmt) := do
  let (found, _) ← iterate (fun ((found, _) : List Stmt × Unit) => do
    match ← current? with
    | none => return ((found, ()), false)
    | some (.data text) => do
        advance
        return ((found ++ [.data text], ()), true)
    | some .openOutput => do
        advance
        let value ← values self.expression [] false
        need .closeOutput
        return ((found ++ [.output value], ()), true)
    | some .openTag => do
        advance
        let ends := match ← current? with
          | some (.name text) => words.contains text
          | _ => false
        if ends then return ((found, ()), false)
        else
          let more ← statement self block
          need .closeTag
          return ((found ++ more, ()), true)
    | some _ => fail) ([], ())
  return found

end

def statementsOf (self : Rules) : Nat → List String → Parse (List Stmt)
  | 0, _ => fail
  | depth + 1, words => statements self (statementsOf self depth) words

def read (text : List Char) : Except Nat (List Stmt) := do
  let found := tokens text
  let depth := found.length + 2
  let ((), stream) ← (refuseBad found).run { tokens := found }
  let (body, _) ← (statementsOf (rulesOf depth) depth []).run stream
  match unknownInAll? false body with
  | some line => .error line
  | none => .ok body

end StubForge.Template
