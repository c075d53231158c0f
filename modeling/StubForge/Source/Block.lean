import StubForge.Source.Pattern
import StubForge.Library.Statement

set_option autoImplicit false

/-!
Statements of module sources, and whole modules. What a statement does to the names of its module is
kept; the parts that only compute are recognised and dropped.
-/

namespace StubForge.Source

open Parse

-- What a run of statements does, and the abstract methods that it defines.
structure Suite where
  statements : List Statement := []
  abstractNames : List String := []

def Suite.append (a b : Suite) : Suite :=
  { statements := a.statements ++ b.statements, abstractNames := a.abstractNames ++ b.abstractNames }

def Suite.join (suites : List Suite) : Suite := suites.foldl Suite.append {}

def Suite.of (statements : List Statement) : Suite := { statements }

/-! ### Meaning of expressions -/

mutual
def Expr.toTag : Expr → TagExpr
  | .call callee args named =>
      .call (callee.dotted?.getD "") (tagsOf args) (namedTagsOf named)
  | .constant value => .constant value
  | .list items => .constant (.array (constantsOf items))
  | .tuple items => .constant (.array (constantsOf items))
  | _ => .constant .null
termination_by structural e => e
def tagsOf : List Expr → List TagExpr
  | [] => []
  | e :: rest => e.toTag :: tagsOf rest
termination_by structural items => items
def namedTagsOf : List (String × Expr) → List (String × TagExpr)
  | [] => []
  | (name, e) :: rest => (name, e.toTag) :: namedTagsOf rest
termination_by structural items => items
def constantsOf : List Expr → List Json
  | [] => []
  | .constant value :: rest => value :: constantsOf rest
  | _ :: rest => constantsOf rest
termination_by structural items => items
end

-- A condition that is not known holds; parts for type checkers are not run.
def holds : Expr → Bool
  | .constant .null => false
  | .constant (.bool b) => b
  | .constant (.int n) => n != 0
  | .constant (.string s) => s != ""
  | .constant (.object members) => !members.isEmpty
  | .tuple items => !items.isEmpty
  | .list items => !items.isEmpty
  | .name text => text != "TYPE_CHECKING"
  | .attribute _ text => text != "TYPE_CHECKING"
  | _ => true

mutual
def bindTarget (value : Expr) : Expr → List Statement
  | .name text =>
      match value with
      | .constant json => [.assign text json]
      | .name other => [.rebind text other]
      | .attribute of member =>
          [.rebind text ((Expr.attribute of member).dotted?.getD text)]
      | _ => [.function text []]
  | .tuple items => bindTargets items
  | .list items => bindTargets items
  | .starred inner => bindTarget .other inner
  | _ => []
termination_by structural target => target
def bindTargets : List Expr → List Statement
  | [] => []
  | target :: rest => bindTarget .other target ++ bindTargets rest
termination_by structural targets => targets
end

def raised : Expr → Statement
  | .name kind => .raise kind ""
  | .call callee args _ =>
      let message := match args with
        | .constant (.string text) :: _ => text
        | _ => ""
      .raise (callee.dotted?.getD "RuntimeError") message
  | _ => .raise "RuntimeError" ""

def evaluated : Expr → List Statement
  | .call (.attribute base "register") [virtual] [] =>
      match base.dotted?, virtual.dotted? with
      | some base, some virtual => [.register base virtual]
      | _, _ => []
  | _ => []

def isAbstractMark (e : Expr) : Bool :=
  e.dotted? = some "abstractmethod" || e.dotted? = some "abc.abstractmethod"

def tagsOfDecorators (decorators : List Expr) : List TagExpr :=
  decorators.filterMap fun e => match e with
    | .call .. => some e.toTag
    | _ => none

def classOf (name : Identifier) (args : List Argument) (decorators : List Expr) (body : Suite) : Statement :=
  let bases := args.filterMap fun a => match a with | .positional e => e.dotted? | _ => none
  let marked := args.any fun a =>
    match a with
    | .named "meta" (.constant (.bool true)) => true
    | _ => false
  .define
    { name, bases, marked, abstractMethods := body.abstractNames, tags := tagsOfDecorators decorators }
    body.statements

/-! ### Simple statements -/

section
variable (self : Rules)

def valueOrYield : Parse Expr := do
  if ← isWordNext "yield" then self.yielded else self.stars

def updatingMarks : List String :=
  ["+=", "-=", "*=", "/=", "//=", "%=", "@=", "&=", "|=", "^=", "<<=", ">>=", "**="]

-- The values of an assignment: each but the last one is a target.
def assignedFrom : Nat → List Expr → Expr → Parse Suite
  | 0, _, _ => failure
  | fuel + 1, targets, last => do
      if ← mark "=" then
        if last.isTarget then
          let next ← valueOrYield self
          assignedFrom fuel (targets ++ [last]) next
        else failure
      else return .of (targets.flatMap (bindTarget last))

def expressionStatement : Parse Suite := do
  let first ← valueOrYield self
  if ← isMarkNext "=" then
    fun ts => assignedFrom self (ts.length + 1) [] first ts
  else if ← mark ":" then
    if first.isSinglePlace then
      let _ ← self.expression
      if ← mark "=" then
        let value ← valueOrYield self
        return .of (bindTarget value first)
      else return {}
    else failure
  else
    match ← peek? with
    | some (.op text) =>
        if updatingMarks.contains text then
          if first.isSinglePlace then
            step
            let _ ← valueOrYield self
            return {}
          else failure
        else return .of (evaluated first)
    | _ => return .of (evaluated first)

def dottedName : Parse String := do
  let first ← identifier
  let more ← many (do needMark "."; identifier)
  return Text.join "." (first :: more)

def newName? : Parse (Option String) := do
  if ← word "as" then return some (← identifier) else return none

def importedModule : Parse (List Statement) := do
  let module ← dottedName
  match ← newName? with
  | some name => return [.importModule module, .rebind name module]
  | none => return [.importModule module]

def strictList {α : Type} (item : Parse α) : Parse (List α) := do
  let first ← item
  return first :: (← many (do needMark ","; item))

def importStatement : Parse Suite := do
  let found ← strictList importedModule
  return .of found.flatten

def relativeDots : Parse String := do
  let found ← many (do
    if ← mark "." then return "."
    else
      needMark "..."
      return "...")
  return String.join found

def importedName : Parse (String × Option String) := do
  let name ← identifier
  return (name, ← newName?)

def importedNames : Parse (List (String × Option String)) := do
  if ← mark "*" then return []
  else if ← mark "(" then
    let (found, _) ← commaList importedName
    needMark ")"
    return found
  else strictList importedName

def futureModule : String := "__future__"

def fromStatement : Parse Suite := do
  let dots ← relativeDots
  let module ← (if dots = "" then dottedName else dottedName <|> pure "")
  needWord "import"
  let names ← importedNames
  if dots = "" && module = futureModule then return {}
  else
    let source := dots ++ module
    return .of (names.flatMap fun (name, newName) =>
      match newName with
      | some other =>
          if other = name then [.fromImport source name]
          else [.fromImport source name, .rebind other name, .delete name]
      | none => [.fromImport source name])

def deleteStatement : Parse Suite := do
  let (targets, _) ← commaList self.primary
  if areRemovable targets then
    return .of (targets.filterMap fun target =>
      match target with
      | .name text => some (.delete text)
      | _ => none)
  else failure

def raiseStatement : Parse Suite := do
  match ← (do return some (← self.expression)) <|> pure none with
  | none => return .of [.raise "RuntimeError" "No active exception to reraise"]
  | some e => do
      if ← word "from" then
        let _ ← self.expression
      return .of [raised e]

def assertStatement : Parse Suite := do
  let _ ← self.expression
  if ← mark "," then
    let _ ← self.expression
  return {}

def simpleStatement : Parse Suite := do
  if (← word "pass") || (← word "break") || (← word "continue") then return {}
  else if ← word "return" then
    let _ ← self.stars <|> pure .other
    return {}
  else if (← word "global") || (← word "nonlocal") then
    let _ ← strictList identifier
    return {}
  else if ← word "import" then importStatement
  else if ← word "from" then fromStatement
  else if ← word "del" then deleteStatement self
  else if ← word "raise" then raiseStatement self
  else if ← word "assert" then assertStatement self
  else expressionStatement self

def simpleLine : Parse Suite := do
  let first ← simpleStatement self
  let more ← many (do needMark ";"; simpleStatement self)
  let _ ← mark ";"
  need .newline
  return .join (first :: more)

/-! ### Compound statements -/

end

section
variable (self : Rules) (pattern : Parse Unit) (block : Parse Suite)

def elseBlock : Parse (Option Suite) := do
  if ← word "else" then
    needMark ":"
    return some (← block)
  else return none

def finallyBlock : Parse (Option Suite) := do
  if ← word "finally" then
    needMark ":"
    return some (← block)
  else return none

def statementsOf (suite : Option Suite) : List Statement := (suite.getD {}).statements

def conditional : Parse (Expr × Suite) := do
  let condition ← self.named
  needMark ":"
  return (condition, ← block)

def ifStatement : Parse Suite := do
  let (condition, body) ← conditional self block
  let others ← many (do needWord "elif"; conditional self block)
  let last ← elseBlock block
  let orelse := others.foldr
    (fun (condition, body) rest => [Statement.branch (holds condition) body.statements rest])
    (statementsOf last)
  return .of [.branch (holds condition) body.statements orelse]

def whileStatement : Parse Suite := do
  let (_, body) ← conditional self block
  let _ ← elseBlock block
  return .of [.once body.statements]

def forStatement : Parse Suite := do
  let _ ← loopTargets self
  needWord "in"
  let _ ← self.stars
  needMark ":"
  let body ← block
  let _ ← elseBlock block
  return .of [.once body.statements]

def withItem : Parse Unit := do
  let _ ← self.expression
  if ← word "as" then
    let target ← starOr self.primary self.primary
    if target.isTarget then pure () else failure

def withHead : Parse Unit :=
  (do
    needMark "("
    let _ ← commaList (withItem self)
    needMark ")"
    needMark ":")
  <|> (do
    let _ ← strictList (withItem self)
    needMark ":")

def withStatement : Parse Suite := do
  withHead self
  return .of [.once (← block).statements]

structure Handler where
  grouped : Bool
  kinds : List (Option String)
  body : List Statement

-- The kinds that an expression names; one that is not known may be any. A handler of no kinds still has its statements.
def kindsOf : Expr → List (Option String)
  | .tuple [] => [some Statement.noKind]
  | .tuple items => items.map Expr.dotted?
  | e => [e.dotted?]

def handler : Parse Handler := do
  needWord "except"
  let grouped ← mark "*"
  if !grouped && (← mark ":") then
    return { grouped, kinds := [none], body := (← block).statements }
  else
    let kind ← self.expression
    let _ ← newName?
    needMark ":"
    return { grouped, kinds := kindsOf kind, body := (← block).statements }

def Handler.split (h : Handler) : List (Option String × List Statement) :=
  h.kinds.map fun kind => (kind, h.body)

def tryStatement : Parse Suite := do
  needMark ":"
  let body ← block
  let handlers ← many (handler self block)
  let grouped := handlers.any (·.grouped)
  if grouped && handlers.any fun h => !h.grouped then failure
  else
    let orelse ← if handlers.isEmpty then pure none else elseBlock block
    let cleanup ← finallyBlock block
    if handlers.isEmpty && cleanup.isNone then failure
    else
      return .of [.attempt grouped body.statements (handlers.flatMap Handler.split)
        (statementsOf orelse) (statementsOf cleanup)]

def functionStatement (decorators : List Expr) : Parse Suite := do
  let name ← identifier
  needMark "("
  parameters self { closing := ")", annotated := true }
  needMark ")"
  if ← mark "->" then
    let _ ← self.expression
  needMark ":"
  let body ← block
  if decorators.any isAbstractMark then return { abstractNames := [name] }
  else return .of [.function name body.statements]

def className : Parse Identifier := do
  match Identifier.of? (← identifier) with
  | some name => return name
  | none => failure

def classStatement (decorators : List Expr) : Parse Suite := do
  let name ← className
  let args ← if ← mark "(" then arguments self else pure []
  needMark ":"
  return .of [classOf name args decorators (← block)]

def asyncStatement (decorators : List Expr) : Parse Suite := do
  if ← word "def" then functionStatement self block decorators
  else if !decorators.isEmpty then failure
  else if ← word "for" then forStatement self block
  else
    needWord "with"
    withStatement self block

def decorator : Parse Expr := do
  needMark "@"
  let e ← self.named
  need .newline
  return e

def decoratedStatement : Parse Suite := do
  let decorators ← many (decorator self)
  if ← word "def" then functionStatement self block decorators
  else if ← word "class" then classStatement self block decorators
  else
    needWord "async"
    asyncStatement self block decorators

def matchSubject : Parse Unit := do
  let first ← starItem self
  if ← mark "," then
    let _ ← (do let _ ← commaList (starItem self); pure ()) <|> pure ()
  else
    match first with
    | .starred _ => failure
    | _ => pure ()

def caseBlock : Parse Unit := do
  needWord "case"
  casePatterns pattern
  if ← word "if" then
    let _ ← self.named
  needMark ":"
  let _ ← block

-- Match is a keyword only where a match statement can be read.
def matchStatement : Parse Suite := do
  needWord "match"
  matchSubject self
  needMark ":"
  need .newline
  need .indent
  caseBlock self pattern block
  let _ ← many (caseBlock self pattern block)
  need .dedent
  return {}

def statement : Parse Suite := do
  match ← peek? with
  | some (.op "@") => decoratedStatement self block
  | some (.name text) =>
      if text = "def" then do step; functionStatement self block []
      else if text = "class" then do step; classStatement self block []
      else if text = "async" then do step; asyncStatement self block []
      else if text = "if" then do step; ifStatement self block
      else if text = "while" then do step; whileStatement self block
      else if text = "for" then do step; forStatement self block
      else if text = "with" then do step; withStatement self block
      else if text = "try" then do step; tryStatement self block
      else if text = "match" then matchStatement self pattern block <|> simpleLine self
      else simpleLine self
  | _ => simpleLine self

def indentedBlock : Parse Suite := do
  if ← accept .newline then
    need .indent
    let first ← statement self pattern block
    let more ← many (statement self pattern block)
    need .dedent
    return .join (first :: more)
  else simpleLine self

end

def blockOf (self : Rules) (pattern : Parse Unit) : Nat → Parse Suite
  | 0 => failure
  | depth + 1 => indentedBlock self pattern (blockOf self pattern depth)

def statements? (text : List Char) : Option (List Statement) := do
  let ts ← tokens? text
  let depth := text.length + 2
  let self := rulesOf depth
  let pattern := patternOf self depth
  let (found, rest) ← (many (statement self pattern (blockOf self pattern depth))) ts
  if rest.isEmpty then some (Suite.join found).statements else none

def read? (bytes : List UInt8) : Option (List Statement) := (decode? bytes).bind statements?

def classNames (statements : List Statement) : List String :=
  ((classNamesIn statements).map (·.text)).eraseDups

end StubForge.Source
