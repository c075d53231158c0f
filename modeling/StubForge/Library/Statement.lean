import StubForge.Identifier
import StubForge.Json

set_option autoImplicit false

/-!
The statements that a module of a command library is made of, as far as they decide which classes
it defines, what these classes are, and whether running the module fails.
-/

namespace StubForge

inductive TagExpr where
  | constant (value : Json)
  | call (type : String) (args : List TagExpr) (named : List (String × TagExpr))
  deriving BEq, Repr, Inhabited

structure ClassHead where
  name : Identifier
  bases : List String := []
  -- The declaration passes the marker for meta information.
  marked : Bool := false
  abstractMethods : List String := []
  methods : List String := []
  attributes : List (String × Json) := []
  -- Decorators, first on top.
  tags : List TagExpr := []
  deriving BEq, Repr, Inhabited

inductive Statement where
  | define (head : ClassHead) (inner : List Statement)
  | branch (condition : Bool) (body orelse : List Statement)
  | attempt (grouped : Bool) (body : List Statement)
      (handlers : List (Option String × List Statement)) (orelse cleanup : List Statement)
  | once (body : List Statement)
  | function (name : String) (body : List Statement)
  | fromImport (module name : String)
  | importModule (module : String)
  | raise (exception message : String)
  | assign (name : String) (value : Json)
  | rebind (name expression : String)
  | delete (name : String)
  | register (base virtual : String)
  deriving BEq, Repr, Inhabited

-- Stands for the kinds of a handler that takes no error; it can be no name.
def Statement.noKind : String := "()"

mutual
-- The classes that a statement defines at module level: branches and attempts are looked into, loops,
-- functions, classes and grouped attempts are not.
def Statement.classNames : Statement → List Identifier
  | .define head _ => [head.name]
  | .branch _ body orelse => classNamesIn body ++ classNamesIn orelse
  | .attempt false body handlers orelse cleanup =>
      classNamesIn body ++ classNamesOfHandlers handlers ++ classNamesIn orelse
        ++ classNamesIn cleanup
  | _ => []
termination_by structural statement => statement
def classNamesIn : List Statement → List Identifier
  | [] => []
  | statement :: rest => statement.classNames ++ classNamesIn rest
termination_by structural statements => statements
def classNamesOfHandlers : List (Option String × List Statement) → List Identifier
  | [] => []
  | (_, body) :: rest => classNamesIn body ++ classNamesOfHandlers rest
termination_by structural handlers => handlers
end

end StubForge
