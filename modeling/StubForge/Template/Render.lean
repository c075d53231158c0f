import StubForge.Session
import StubForge.Template.Operation

set_option autoImplicit false

/-!
Rendering templates. Expressions and statements are evaluated by recursion on their form; calls that
render other text, of fragments and of the generator, are made through services that are passed along.
-/

namespace StubForge.Template

structure Stage where
  session : Session := {}
  files : List Path := []

abbrev Render := ExceptT Trouble (StateM Stage)

namespace Render

def ofResult {α : Type} : Except Trouble α → Render α
  | .ok value => pure value
  | .error trouble => throw trouble

def ofRun {α : Type} (run : Run α) : Render α := fun stage =>
  match run stage.session with
  | (.ok value, session) => (.ok value, { stage with session })
  | (.error (.failure failure), session) => (.error (.failure failure), { stage with session })
  | (.error (.mishap mishap), session) => (.error (.mishap mishap), { stage with session })

end Render

-- The names that are known at a place: those of the loops and fragments around it, innermost first, those of
-- the template, and those it is rendered with.
structure Env where
  locals : List Scope := []
  root : Scope := []
  globals : Scope := []

namespace Env

def scopes (env : Env) : List Scope := env.locals ++ [env.root, env.globals]

def find? (name : String) (scope : Scope) : Option Value :=
  (scope.find? fun entry => entry.1 == name).map (·.2)

def undefinedName (name : String) : Value := .undefined (Text.quoted name ++ " is undefined")

def lookup (env : Env) (name : String) : Value :=
  match env.scopes.findSome? (find? name) with
  | some value => value
  | none => if name = "range" then .method .null name else undefinedName name

def assign (env : Env) (names : Scope) : Env :=
  let put := fun (scope : Scope) => names.foldl (fun scope (name, value) => Json.setMember name value scope) scope
  match env.locals with
  | [] => { env with root := put env.root }
  | scope :: outer => { env with locals := put scope :: outer }

def enter (env : Env) (scope : Scope) : Env := { env with locals := scope :: env.locals }

def flatten (env : Env) : Scope := env.scopes.flatten

end Env

-- What evaluation leaves to others: calls, with the template that makes them and the names known there, and
-- the insertion of another template.
structure Services where
  call : String → Env → Value → List Value → List (String × Value) → Render Value
  insert : Scope → String → Bool → Render String

def missingChoice (template : String) (line : Nat) : Value :=
  .undefined ("the inline if-expression on line " ++ Text.natText line ++ " in " ++ Text.quoted template
    ++ " evaluated to false and no else section was defined.")

def call (services : Services) (scene : Scene) (template : String) (env : Env) (callee : Value) (args : List Value)
    (named : List (String × Value)) : Render Value :=
  match callee with
  | .undefined complaint => throw (.complaint complaint)
  | .fragment .. => services.call template env callee args named
  | .method .generator _ => services.call template env callee args named
  | .method receiver name => Render.ofResult (Value.callMethod scene receiver name args named)
  | other => throw (.type (Text.quoted other.typeName ++ " object is not callable"))

section
variable (services : Services) (scene : Scene) (template : String)

mutual
def evaluate (env : Env) : Expr → Render Value
  | .constant value => pure (.ofJson value)
  | .name name => pure (env.lookup name)
  | .list items => do return .list (← evaluateAll env items)
  | .tuple items => do return .tuple (← evaluateAll env items)
  | .dictionary entries => do return .dictionary (← evaluateEntries env entries)
  | .attribute inner name => do
      let value ← evaluate env inner
      Render.ofResult (value.member scene name)
  | .item inner key => do
      let value ← evaluate env inner
      let key ← evaluate env key
      Render.ofResult (value.item scene key)
  | .call callee args named => do
      let callee ← evaluate env callee
      let args ← evaluateAll env args
      let named ← evaluateNamed env named
      call services scene template env callee args named
  | .filtered inner filter args named _ => do
      let value ← evaluate env inner
      let args ← evaluateAll env args
      let named ← evaluateNamed env named
      Render.ofResult (value.applyFilter scene filter args named)
  | .tested inner test args _ => do
      let value ← evaluate env inner
      let args ← evaluateAll env args
      return .bool (← Render.ofResult (value.applyTest scene test args))
  | .negation inner => do
      let value ← evaluate env inner
      return .bool (!(← Render.ofResult (value.isTrue scene)))
  | .minus inner => do
      let value ← evaluate env inner
      Render.ofResult (value.signed "-" true)
  | .plus inner => do
      let value ← evaluate env inner
      Render.ofResult (value.signed "+" false)
  | .binary op left right => do
      let left ← evaluate env left
      let right ← evaluate env right
      Render.ofResult (left.binary op right)
  | .joined parts => do
      let values ← evaluateAll env parts
      let texts ← Render.ofResult (values.mapM (Value.plain scene))
      return .text (String.join texts)
  | .compared first rest => do
      let value ← evaluate env first
      return .bool (← evaluateCompared env value rest)
  | .both left right => do
      let value ← evaluate env left
      if ← Render.ofResult (value.isTrue scene) then evaluate env right else return value
  | .either left right => do
      let value ← evaluate env left
      if ← Render.ofResult (value.isTrue scene) then return value else evaluate env right
  | .choice condition yes no => do
      let value ← evaluate env condition
      if ← Render.ofResult (value.isTrue scene) then evaluate env yes else evaluate env no
  | .guarded condition yes line => do
      let value ← evaluate env condition
      if ← Render.ofResult (value.isTrue scene) then evaluate env yes
      else return missingChoice template line
termination_by structural e => e
def evaluateAll (env : Env) : List Expr → Render (List Value)
  | [] => pure []
  | e :: rest => do
      let value ← evaluate env e
      return value :: (← evaluateAll env rest)
termination_by structural items => items
def evaluateEntries (env : Env) : List (Expr × Expr) → Render (List (Value × Value))
  | [] => pure []
  | (key, value) :: rest => do
      let key ← evaluate env key
      let value ← evaluate env value
      return (key, value) :: (← evaluateEntries env rest)
termination_by structural entries => entries
def evaluateNamed (env : Env) : List (String × Expr) → Render (List (String × Value))
  | [] => pure []
  | (name, value) :: rest => do
      let value ← evaluate env value
      return (name, value) :: (← evaluateNamed env rest)
termination_by structural named => named
-- A chain of relations holds if each of them holds; after the first that does not, no further value is looked
-- at.
def evaluateCompared (env : Env) (left : Value) : List (Relation × Expr) → Render Bool
  | [] => pure true
  | (relation, e) :: rest => do
      let right ← evaluate env e
      if ← Render.ofResult (Value.relate scene relation left right) then evaluateCompared env right rest
      else return false
termination_by structural rest => rest
end

def loopScopes (target : Target) (passes : Scope → Render Bool) : List Value → Render (List Scope)
  | [] => pure []
  | value :: rest => do
      let scope ← Render.ofResult (Value.bind scene target value)
      if ← passes scope then return scope :: (← loopScopes target passes rest)
      else loopScopes target passes rest

def eachScope (body : Scope → Render String) (total : Nat) : Nat → List Scope → Render String
  | _, [] => pure ""
  | index, scope :: rest => do
      let text ← body (scope ++ [("loop", .loop index total)])
      return text ++ (← eachScope body total (index + 1) rest)

def isTrivialTest : Expr → Bool
  | .constant (.bool true) => true
  | _ => false

-- Goes through the values of a loop one by one, binding each only when its turn comes.
def eachValue (target : Target) (body : Scope → Render String) (total : Nat) : Nat → List Value → Render String
  | _, [] => pure ""
  | index, value :: rest => do
      let scope ← Render.ofResult (Value.bind scene target value)
      let text ← body (scope ++ [("loop", .loop index total)])
      return text ++ (← eachValue target body total (index + 1) rest)

mutual
def renderStmt (env : Env) : Stmt → Render (Env × String)
  | .data text => pure (env, text)
  | .output e => do
      let value ← evaluate services scene template env e
      return (env, ← Render.ofResult (value.plain scene))
  | .loop target items test body orelse => do
      let value ← evaluate services scene template env items
      let items ← Render.ofResult (value.iterate scene)
      let inside := fun (scope : Scope) => do return (← renderAll (env.enter scope) body).2
      if isTrivialTest test then
        if items.isEmpty then return (env, (← renderAll (env.enter []) orelse).2)
        else return (env, ← eachValue scene target inside items.length 0 items)
      else
        let passes := fun (scope : Scope) => do
          let value ← evaluate services scene template (env.enter scope) test
          Render.ofResult (value.isTrue scene)
        let scopes ← loopScopes scene target passes items
        if scopes.isEmpty then return (env, (← renderAll (env.enter []) orelse).2)
        else return (env, ← eachScope inside scopes.length 0 scopes)
  | .branch condition body orelse => do
      let value ← evaluate services scene template env condition
      if ← Render.ofResult (value.isTrue scene) then renderAll env body else renderAll env orelse
  | .assign target e => do
      let value ← evaluate services scene template env e
      return (env.assign (← Render.ofResult (Value.bind scene target value)), "")
  | .capture target body => do
      let text := (← renderAll (env.enter []) body).2
      return (env.assign (← Render.ofResult (Value.bind scene target (.text text))), "")
  | .define name parameters defaults body =>
      pure (env.assign [(name, .fragment name parameters defaults body env.locals)], "")
  | .insert e ignoreMissing withContext => do
      match ← evaluate services scene template env e with
      | .undefined complaint => throw (.complaint complaint)
      | .text name =>
          let names := if withContext then env.flatten else []
          return (env, ← services.insert names name ignoreMissing)
      | other => throw (.type (Text.quoted other.typeName ++ " object is not iterable"))
  | .scoped bindings body => do
      let scope ← renderBindings env bindings
      return (env, (← renderAll (env.enter scope) body).2)
termination_by structural statement => statement
def renderAll (env : Env) : List Stmt → Render (Env × String)
  | [] => pure (env, "")
  | statement :: rest => do
      let (env, text) ← renderStmt env statement
      let (env, more) ← renderAll env rest
      return (env, text ++ more)
termination_by structural statements => statements
def renderBindings (env : Env) : List (Target × Expr) → Render Scope
  | [] => pure []
  | (target, e) :: rest => do
      let value ← evaluate services scene template env e
      let names ← Render.ofResult (Value.bind scene target value)
      return names ++ (← renderBindings env rest)
termination_by structural bindings => bindings
end

/-! ### Fragments -/

def tooManyArguments (name : String) (count : Nat) : Trouble :=
  .type ("macro " ++ Text.quoted name ++ " takes not more than " ++ Text.natText count ++ " argument(s)")

def unknownArgument (name argument : String) : Trouble :=
  .type ("macro " ++ Text.quoted name ++ " takes no keyword argument " ++ Text.quoted argument)

def notProvided (parameter : String) : Value :=
  .undefined ("parameter " ++ Text.quoted parameter ++ " was not provided")

def fragmentArguments (name : String) (parameters : List String) (args : List Value)
    (named : List (String × Value)) : Except Trouble (List (String × Option Value)) :=
  let given := args.take parameters.length
  let open' := parameters.drop given.length
  match named.find? fun argument => !open'.contains argument.1 with
  | some (argument, _) => .error (unknownArgument name argument)
  | none =>
      if parameters.length < args.length then .error (tooManyArguments name parameters.length)
      else
        .ok ((parameters.zip given).map (fun (parameter, value) => (parameter, some value))
          ++ open'.map fun parameter => (parameter, Env.find? parameter named))

-- Fills in the defaults from the left; a default may use the parameters before it.
def fillDefaults (env : Env) : Scope → List (String × Option Value) → List (Option Expr) → Render Scope
  | scope, (parameter, some value) :: rest, _ :: defaults =>
      fillDefaults env (scope ++ [(parameter, value)]) rest defaults
  | scope, (parameter, none) :: rest, some e :: defaults => do
      let value ← evaluate services scene template (env.enter scope) e
      fillDefaults env (scope ++ [(parameter, value)]) rest defaults
  | scope, (parameter, none) :: rest, none :: defaults =>
      fillDefaults env (scope ++ [(parameter, notProvided parameter)]) rest defaults
  | scope, _, _ => pure scope

def callFragment (env : Env) (name : String) (parameters : List String) (defaults : List Expr)
    (body : List Stmt) (args : List Value) (named : List (String × Value)) : Render Value := do
  let found ← Render.ofResult (fragmentArguments name parameters args named)
  let filled := List.replicate (parameters.length - defaults.length) none ++ defaults.map some
  let scope ← fillDefaults services scene template env [] found filled
  return .text (← renderAll services scene template (env.enter scope) body).2

end

end StubForge.Template
