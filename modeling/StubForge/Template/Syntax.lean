import StubForge.Json

set_option autoImplicit false

/-!
The syntax of templates: expressions, and the statements that a template is a list of.
-/

namespace StubForge.Template

inductive BinaryOp where
  | add
  | sub
  | mul
  | div
  | floorDiv
  | modulo
  | power
  deriving DecidableEq, Repr

inductive Relation where
  | equal
  | unequal
  | less
  | lessEqual
  | greater
  | greaterEqual
  | member
  | notMember
  deriving DecidableEq, Repr

inductive Target where
  | name (name : String)
  | tuple (parts : List Target)
  deriving Repr, Inhabited

inductive Expr where
  | constant (value : Json)
  | name (name : String)
  | list (items : List Expr)
  | tuple (items : List Expr)
  | dictionary (entries : List (Expr × Expr))
  | attribute (of : Expr) (name : String)
  | item (of key : Expr)
  | call (callee : Expr) (args : List Expr) (named : List (String × Expr))
  | filtered (value : Expr) (filter : String) (args : List Expr) (named : List (String × Expr))
      (line : Nat)
  | tested (value : Expr) (test : String) (args : List Expr) (line : Nat)
  | negation (of : Expr)
  | minus (of : Expr)
  | plus (of : Expr)
  | binary (op : BinaryOp) (left right : Expr)
  | joined (parts : List Expr)
  | compared (first : Expr) (rest : List (Relation × Expr))
  | both (left right : Expr)
  | either (left right : Expr)
  | choice (condition yes no : Expr)
  -- A choice without an alternative; its line is part of what is said about the missing one.
  | guarded (condition yes : Expr) (line : Nat)
  deriving Repr, Inhabited

inductive Stmt where
  | data (text : String)
  | output (value : Expr)
  -- The test decides which items the body is rendered for.
  | loop (target : Target) (items test : Expr) (body orelse : List Stmt)
  | branch (condition : Expr) (body orelse : List Stmt)
  | assign (target : Target) (value : Expr)
  | capture (target : Target) (body : List Stmt)
  -- The defaults are those of the last parameters.
  | define (name : String) (parameters : List String) (defaults : List Expr) (body : List Stmt)
  | insert (template : Expr) (ignoreMissing withContext : Bool)
  | scoped (bindings : List (Target × Expr)) (body : List Stmt)
  deriving Repr, Inhabited

/-! ### Names of filters and tests

The names are looked up when a template is read. Within a branch this waits until the branch is
rendered. -/

def filterNames : List String :=
  ["abs", "attr", "batch", "capitalize", "center", "count", "d", "default", "dictsort", "e", "escape",
    "filesizeformat", "first", "float", "forceescape", "format", "groupby", "indent", "int", "items",
    "join", "last", "length", "list", "lower", "map", "max", "min", "pprint", "random", "reject",
    "rejectattr", "replace", "reverse", "round", "safe", "select", "selectattr", "slice", "sort",
    "string", "striptags", "sum", "title", "tojson", "trim", "truncate", "unique", "upper", "urlencode",
    "urlize", "wordcount", "wordwrap", "xmlattr"]

def testNames : List String :=
  ["!=", "<", "<=", "==", ">", ">=", "boolean", "callable", "defined", "divisibleby", "eq", "equalto",
    "escaped", "even", "false", "filter", "float", "ge", "greaterthan", "gt", "in", "integer",
    "iterable", "le", "lessthan", "lower", "lt", "mapping", "ne", "none", "number", "odd", "sameas",
    "sequence", "string", "test", "true", "undefined", "upper"]

mutual
def Expr.unknown? (soft : Bool) : Expr → Option Nat
  | .constant _ => none
  | .name _ => none
  | .list items => unknownIn? soft items
  | .tuple items => unknownIn? soft items
  | .dictionary entries => unknownInPairs? soft entries
  | .attribute inner _ => inner.unknown? soft
  | .item inner key => inner.unknown? soft <|> key.unknown? soft
  | .call callee args named => callee.unknown? soft <|> unknownIn? soft args <|> unknownInNamed? soft named
  | .filtered inner filter args named line =>
      (if soft || filterNames.contains filter then none else some line)
        <|> inner.unknown? soft <|> unknownIn? soft args <|> unknownInNamed? soft named
  | .tested inner test args line =>
      (if soft || testNames.contains test then none else some line)
        <|> inner.unknown? soft <|> unknownIn? soft args
  | .negation inner => inner.unknown? soft
  | .minus inner => inner.unknown? soft
  | .plus inner => inner.unknown? soft
  | .binary _ left right => left.unknown? soft <|> right.unknown? soft
  | .joined parts => unknownIn? soft parts
  | .compared first rest => first.unknown? soft <|> unknownInCompared? soft rest
  | .both left right => left.unknown? soft <|> right.unknown? soft
  | .either left right => left.unknown? soft <|> right.unknown? soft
  | .choice condition yes no => condition.unknown? true <|> yes.unknown? true <|> no.unknown? true
  | .guarded condition yes _ => condition.unknown? true <|> yes.unknown? true
termination_by structural e => e
def unknownIn? (soft : Bool) : List Expr → Option Nat
  | [] => none
  | e :: rest => e.unknown? soft <|> unknownIn? soft rest
termination_by structural items => items
def unknownInPairs? (soft : Bool) : List (Expr × Expr) → Option Nat
  | [] => none
  | (key, value) :: rest => key.unknown? soft <|> value.unknown? soft <|> unknownInPairs? soft rest
termination_by structural entries => entries
def unknownInNamed? (soft : Bool) : List (String × Expr) → Option Nat
  | [] => none
  | (_, value) :: rest => value.unknown? soft <|> unknownInNamed? soft rest
termination_by structural named => named
def unknownInCompared? (soft : Bool) : List (Relation × Expr) → Option Nat
  | [] => none
  | (_, value) :: rest => value.unknown? soft <|> unknownInCompared? soft rest
termination_by structural rest => rest
end

mutual
def Stmt.unknown? (soft : Bool) : Stmt → Option Nat
  | .data _ => none
  | .output value => value.unknown? soft
  | .loop _ items test body orelse =>
      test.unknown? false <|> items.unknown? soft <|> unknownInAll? false body <|> unknownInAll? false orelse
  | .branch condition body orelse =>
      condition.unknown? true <|> unknownInAll? true body <|> unknownInAll? true orelse
  | .assign _ value => value.unknown? soft
  | .capture _ body => unknownInAll? false body
  | .define _ _ defaults body => unknownIn? false defaults <|> unknownInAll? false body
  | .insert template _ _ => template.unknown? soft
  | .scoped bindings body => unknownInBindings? soft bindings <|> unknownInAll? false body
termination_by structural statement => statement
def unknownInAll? (soft : Bool) : List Stmt → Option Nat
  | [] => none
  | statement :: rest => statement.unknown? soft <|> unknownInAll? soft rest
termination_by structural statements => statements
def unknownInBindings? (soft : Bool) : List (Target × Expr) → Option Nat
  | [] => none
  | (_, value) :: rest => value.unknown? soft <|> unknownInBindings? soft rest
termination_by structural bindings => bindings
end

end StubForge.Template
