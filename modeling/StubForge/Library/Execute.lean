import StubForge.Library.Resolution
import StubForge.Signature

set_option autoImplicit false

/-!
Running the statements of a module. What a run changed before an error stays changed; imports are
made by the function that is passed along.
-/

namespace StubForge

abbrev Exec := ExceptT Mishap (StateM World)

def errorParents : List (String × String) := [
  ("Exception", "BaseException"), ("SystemExit", "BaseException"),
  ("KeyboardInterrupt", "BaseException"), ("GeneratorExit", "BaseException"),
  ("BaseExceptionGroup", "BaseException"), ("ExceptionGroup", "Exception"),
  ("ArithmeticError", "Exception"), ("FloatingPointError", "ArithmeticError"),
  ("OverflowError", "ArithmeticError"), ("ZeroDivisionError", "ArithmeticError"),
  ("AssertionError", "Exception"), ("AttributeError", "Exception"), ("BufferError", "Exception"),
  ("EOFError", "Exception"), ("ImportError", "Exception"), ("ModuleNotFoundError", "ImportError"),
  ("LookupError", "Exception"), ("IndexError", "LookupError"), ("KeyError", "LookupError"),
  ("MemoryError", "Exception"), ("NameError", "Exception"), ("UnboundLocalError", "NameError"),
  ("OSError", "Exception"), ("IOError", "OSError"), ("EnvironmentError", "OSError"),
  ("BlockingIOError", "OSError"),
  ("ChildProcessError", "OSError"), ("ConnectionError", "OSError"),
  ("BrokenPipeError", "ConnectionError"), ("ConnectionAbortedError", "ConnectionError"),
  ("ConnectionRefusedError", "ConnectionError"), ("ConnectionResetError", "ConnectionError"),
  ("FileExistsError", "OSError"), ("FileNotFoundError", "OSError"), ("InterruptedError", "OSError"),
  ("IsADirectoryError", "OSError"), ("NotADirectoryError", "OSError"), ("PermissionError", "OSError"),
  ("ProcessLookupError", "OSError"), ("TimeoutError", "OSError"), ("ReferenceError", "Exception"),
  ("RuntimeError", "Exception"), ("NotImplementedError", "RuntimeError"),
  ("RecursionError", "RuntimeError"), ("StopIteration", "Exception"),
  ("StopAsyncIteration", "Exception"), ("SyntaxError", "Exception"),
  ("IndentationError", "SyntaxError"), ("TabError", "IndentationError"), ("SystemError", "Exception"),
  ("TypeError", "Exception"), ("ValueError", "Exception"), ("UnicodeError", "ValueError"),
  ("UnicodeDecodeError", "UnicodeError"), ("UnicodeEncodeError", "UnicodeError"),
  ("UnicodeTranslateError", "UnicodeError"), ("Warning", "Exception"), ("BytesWarning", "Warning"),
  ("DeprecationWarning", "Warning"), ("EncodingWarning", "Warning"), ("FutureWarning", "Warning"),
  ("ImportWarning", "Warning"), ("PendingDeprecationWarning", "Warning"),
  ("ResourceWarning", "Warning"), ("RuntimeWarning", "Warning"), ("SyntaxWarning", "Warning"),
  ("UnicodeWarning", "Warning"), ("UserWarning", "Warning")]

def canonicalError (kind : String) : String :=
  if kind = "IOError" || kind = "EnvironmentError" then "OSError" else kind

def isErrorName (kind : String) : Bool :=
  kind == "BaseException" || errorParents.any fun entry => entry.1 == kind

def isErrorFrom : Nat → String → String → Bool
  | 0, kind, ancestor => kind == ancestor
  | fuel + 1, kind, ancestor =>
      kind == ancestor
        || match errorParents.find? fun entry => entry.1 == kind with
          | some (_, parent) => isErrorFrom fuel parent ancestor
          | none => false

def isErrorOf (kind ancestor : String) : Bool :=
  isErrorFrom 8 (canonicalError kind) (canonicalError ancestor)

structure Frame where
  module : String
  classes : List String := []

namespace Exec

def fail {α : Type} (kind message : String) : Exec α := throw { kind, message }

def undefined {α : Type} (name : String) : Exec α :=
  fail "NameError" ("name " ++ Text.quoted name ++ " is not defined")

-- Innermost class body, then the module.
def lookup? (frame : Frame) (name : String) : Exec (Option Object) := do
  let world ← get
  let own := world.scopes.head?.bind (World.lookup name)
  let global := (world.module? frame.module).bind fun record => World.lookup name record.globals
  let builtin := if name = "object" then some (.cls World.objectId) else none
  return own <|> global <|> builtin

def memberOf (value : Object) (name : String) : Exec Object := do
  let world ← get
  match value with
  | .module module =>
      match world.module? module with
      | none => fail "AttributeError" ("module " ++ Text.quoted module ++ " has no attribute " ++ Text.quoted name)
      | some record =>
          match World.lookup name record.globals with
          | some found => return found
          | none =>
              let (lead, tail) := if record.initializing then
                ("partially initialized module ", " (most likely due to a circular import)")
              else ("module ", "")
              fail "AttributeError"
                (lead ++ Text.quoted module ++ " has no attribute " ++ Text.quoted name ++ tail)
  | .cls id =>
      match world.attribute? id name with
      | some found => return found
      | none =>
          fail "AttributeError" ("type object " ++ Text.quoted (world.nameOf id)
            ++ " has no attribute " ++ Text.quoted name)
  | other =>
      fail "AttributeError" (Text.quoted (world.typeName other) ++ " object has no attribute "
        ++ Text.quoted name)

def evaluate (frame : Frame) (expression : String) : Exec Object := do
  match Name.segments expression with
  | [] => undefined expression
  | first :: rest =>
      match ← lookup? frame first with
      | none => undefined first
      | some value => rest.foldlM memberOf value

def bind (frame : Frame) (name : String) (value : Object) : Exec Unit :=
  modify fun world =>
    match world.scopes with
    | scope :: outer => { world with scopes := Json.setMember name value scope :: outer }
    | [] =>
        match world.module? frame.module with
        | some record => world.setModule { record with globals := Json.setMember name value record.globals }
        | none => world

def unbind (frame : Frame) (name : String) : Exec Unit := do
  let world ← get
  let drop := fun (bindings : Bindings) => bindings.filter fun entry => entry.1 != name
  match world.scopes with
  | scope :: outer =>
      if (World.lookup name scope).isNone then undefined name
      else set { world with scopes := drop scope :: outer }
  | [] =>
      match world.module? frame.module with
      | some record =>
          if (World.lookup name record.globals).isNone then undefined name
          else set (world.setModule { record with globals := drop record.globals })
      | none => undefined name

/-! ### Tags -/

def tagTypeOf (world : World) (id : ClassId) : TagType :=
  let family := (world.orderOf id).findSome? fun k =>
    (World.tagTypeIds.find? fun entry => entry.2 == k).map (·.1)
  { id
    name := world.nameOf id
    family := family.getD .custom
    bundled := World.tagTypeIds.any fun entry => entry.2 == id
    declaresMeta := ((world.class? id).map (·.marked)).getD false }

def isTagOf (world : World) (ancestor : ClassId) : TagField → Bool
  | .tag tag => world.isSubtype tag.type.id ancestor
  | _ => false

def tagFields (world : World) (type : TagType) (args : List TagField)
    (named : List (String × TagField)) : Except Mishap (List (String × TagField)) :=
  match type.family.itemFamily with
  | some item =>
      match named with
      | (name, _) :: _ =>
          .error { kind := "TypeError", message := (BindFault.unexpected "_Group.__init__" name).message }
      | [] =>
          let ancestor := ((World.tagTypeIds.find? fun entry => entry.1 == item).map (·.2)).getD World.tagId
          match args.find? fun argument => !isTagOf world ancestor argument with
          | some bad =>
              .error {
                kind := "TypeError"
                message := type.name ++ " expects " ++ item.name ++ " items, got " ++ Tag.fieldShown bad }
          | none =>
              .ok [("value", .items (args.filterMap fun argument =>
                match argument with | .tag tag => some tag | _ => none))]
  | none =>
      if type.family = .custom then
        if args.isEmpty && named.isEmpty then .ok []
        else .error { kind := "TypeError", message := type.name ++ "() takes no arguments" }
      else
        let fields := type.family.fields
        let signature : Signature :=
          { callee := type.family.name ++ ".__init__"
            parameters := fields.map fun (name, fallback) => (name, fallback.isSome) }
        match signature.bind args named with
        | .error fault => .error { kind := "TypeError", message := fault.message }
        | .ok bound =>
            .ok ((bound.zip fields).map fun ((name, argument), (_, fallback)) =>
              (name, argument.getD (.constant (fallback.getD .null))))

def makeTag (value : Object) (args : List TagField) (named : List (String × TagField)) : Exec Tag := do
  let world ← get
  match value with
  | .cls id =>
      if world.isSubtype id World.tagId then
        let type := tagTypeOf world id
        match tagFields world type args named with
        | .ok fields =>
            set { world with tagsMade := world.tagsMade + 1 }
            return .of type world.tagsMade fields
        | .error mishap => throw mishap
      else if world.isAbstract id then
        let names := ((world.class? id).map (·.abstractNames)).getD []
        fail "TypeError" ("Can't instantiate abstract class " ++ world.nameOf id
          ++ " with abstract method" ++ (if names.length = 1 then " " else "s ")
          ++ Text.join ", " ((Json.sortMembers (names.map fun n => (n, ()))).map (·.1)))
      else if !args.isEmpty || !named.isEmpty then
        fail "TypeError" (world.nameOf id ++ "() takes no arguments")
      else fail "TypeError" (Text.quoted (world.nameOf id) ++ " object is not callable")
  | other => fail "TypeError" (Text.quoted (world.typeName other) ++ " object is not callable")

mutual
def evaluateTag (frame : Frame) : TagExpr → Exec TagField
  | .constant value => pure (.constant value)
  | .call type args named => do
      let value ← evaluate frame type
      let args ← evaluateTags frame args
      let named ← evaluateNamed frame named
      return .tag (← makeTag value args named)
termination_by structural expression => expression
def evaluateTags (frame : Frame) : List TagExpr → Exec (List TagField)
  | [] => pure []
  | expression :: rest => do
      let first ← evaluateTag frame expression
      return first :: (← evaluateTags frame rest)
termination_by structural expressions => expressions
def evaluateNamed (frame : Frame) : List (String × TagExpr) → Exec (List (String × TagField))
  | [] => pure []
  | (name, expression) :: rest => do
      let first ← evaluateTag frame expression
      return (name, first) :: (← evaluateNamed frame rest)
termination_by structural named => named
end

def fixedClassText : String := "cannot set '__ipc_tags__' attribute of immutable type 'object'"

-- Attaches a tag to a class, in front of those it has; a second tag of the same type is refused. The class of all
-- objects cannot be changed.
def applyTag (tag : Tag) (value : Object) : Exec Unit := do
  let world ← get
  match value with
  | .cls id =>
      let tags := ((world.class? id).map (·.tags)).getD []
      if tags.any fun other => other.type.id == tag.type.id then
        fail "ValueError" (tag.type.name ++ " is already present on "
          ++ ((world.class? id).map (·.qualifiedName)).getD "")
      else if id = World.objectId then fail "TypeError" fixedClassText
      else set (world.modifyClass id fun record => { record with tags := tag :: record.tags })
  | other =>
      fail "TypeError" (tag.type.name ++ " can only decorate classes, got " ++ world.valueText other)

/-! ### Classes -/

def conflictText : String :=
  "metaclass conflict: the metaclass of a derived class must be a (non-strict) subclass of the "
    ++ "metaclasses of all its bases"

def joinMetaclass : Metaclass → Metaclass → Option Metaclass
  | .plain, other => some other
  | other, .plain => some other
  | .abstractBase, .abstractBase => some .abstractBase
  | .abstractBase, .protocolBase => some .protocolBase
  | .protocolBase, .abstractBase => some .protocolBase
  | .protocolBase, .protocolBase => some .protocolBase
  | .enumeration, .enumeration => some .enumeration
  | _, _ => none

def refusal (world : World) : Object → String
  | .constant (.int _) => "int() takes at most 2 arguments (3 given)"
  | .constant .null => "NoneType takes no arguments"
  | .constant (.string _) => "str() argument 'encoding' must be str, not tuple"
  | .module _ => "module() takes at most 2 arguments (3 given)"
  | .function _ => "function() argument 'code' must be code, not str"
  | value => world.typeName value ++ " expected at most 1 argument, got 3"

def basesMetaclass (world : World) (bases : List Object) : Except String Metaclass :=
  bases.foldlM (fun winner base =>
    match base with
    | .cls id => ((joinMetaclass winner (world.metaclassOf id)).map Except.ok).getD (.error conflictText)
    | _ => .ok winner) .plain

def classIds (bases : List Object) : List ClassId :=
  bases.filterMap fun base => match base with | .cls id => some id | _ => none

def hasMembers (record : ClassRecord) : Bool :=
  record.members.any fun (_, value) => match value with | .instance _ => true | _ => false

def isReservedName (name : String) : Bool := name.startsWith "_"

def enumMembers (name : String) (members : Bindings) : Bindings :=
  members.map fun (key, value) =>
    match value with
    | .function _ => (key, value)
    | _ => if isReservedName key then (key, value) else (key, .instance name)

def abstractNamesOf (world : World) (bases : List ClassId) (members : Bindings)
    (order : List ClassId) : List String :=
  let own := members.filterMap fun (name, value) => if value == .function true then some name else none
  let lookup := fun (name : String) =>
    World.lookup name members <|> order.findSome? fun k =>
      (world.class? k).bind fun record => World.lookup name record.members
  let inherited := (bases.flatMap fun base => ((world.class? base).map (·.abstractNames)).getD []).filter
    fun name => lookup name == some (.function true)
  (own ++ inherited).eraseDups

-- A protocol may only extend protocols.
def nonProtocolBase (world : World) (bases : List ClassId) : Option ClassId :=
  bases.find? fun base =>
    !(base == World.objectId || base == World.genericId || base == World.protocolId
      || world.isSubtype base World.genericId
        && ((world.attribute? base "_is_protocol").map World.isTruthy).getD false)

def qualify (frame : Frame) (name : String) : String :=
  Text.join ".<locals>." [Name.ofSegments (frame.classes ++ [name])]

def createClass (frame : Frame) (head : ClassHead) (bases : List ClassId) (metaclass : Metaclass)
    (members : Bindings) : Exec ClassId := do
  let world ← get
  let bases := if bases.isEmpty then [World.objectId] else bases
  let qualified := qualify frame head.name.text
  match world.ancestorOrder bases with
  | .error fault => fail "TypeError" fault.message
  | .ok order =>
      let id := world.classes.size
      let isTag := order.contains World.tagId
      let isProtocol := order.contains World.protocolId
      if head.marked && !isTag then
        fail "TypeError" (qualified ++ ".__init_subclass__() takes no keyword arguments")
      let declared := ((World.lookup "_is_protocol" members).map World.isTruthy).getD false
      let direct := bases.contains World.protocolId
      let members := if metaclass = .enumeration then enumMembers head.name.text members
        else if isProtocol && !declared then
          Json.setMember "_is_protocol" (.constant (.bool direct)) members
        else members
      let record : ClassRecord :=
        { name := head.name.text, qualifiedName := qualified, module := frame.module, bases
          order := id :: order, metaclass, members
          abstractNames := if metaclass = .abstractBase || metaclass = .protocolBase
            then abstractNamesOf world bases members order else []
          marked := isTag && head.marked }
      if isProtocol && (declared || direct) then
        match nonProtocolBase world bases with
        | some base =>
            fail "TypeError" ("Protocols can only inherit from other protocols, got " ++ world.classText base)
        | none => pure ()
      set { world with classes := world.classes.push record }
      return id

/-! ### Statements -/

def raised (exception message : String) : Mishap :=
  let kind := canonicalError exception
  { kind, message := if kind = "KeyError" then Text.quoted message else message }

def missingModule (name : String) : String := "No module named " ++ Text.quoted name

-- The absolute name of a module that is named relative to a package by leading dots.
def absoluteName (frame : Frame) (name : String) : Exec String := do
  let dots := name.toList.takeWhile (· = '.')
  if dots.isEmpty then return name
  let rest := String.ofList (name.toList.drop dots.length)
  let world ← get
  let isPackage := ((world.module? frame.module).bind (·.searchPath)).isSome
  let segments := Name.segments frame.module
  let package := if isPackage then segments else segments.dropLast
  if package.isEmpty then
    fail "ImportError" "attempted relative import with no known parent package"
  else if package.length < dots.length then
    fail "ImportError" "attempted relative import beyond top-level package"
  else
    let base := package.take (package.length + 1 - dots.length)
    return Name.ofSegments (if rest = "" then base else base ++ [rest])

-- Imports one name from a module: an attribute, or else a submodule.
def fromImport (load : String → Exec Unit) (frame : Frame) (module name : String) : Exec Unit := do
  let module ← absoluteName frame module
  load module
  let find := do
    let world ← get
    return (world.module? module).bind fun record => World.lookup name record.globals
  if name = "*" then
    let world ← get
    let all := ((world.module? module).map (·.globals)).getD []
    all.forM fun (key, value) => if key.startsWith "_" then pure () else bind frame key value
  else
    match ← find with
    | some value => bind frame name value
    | none =>
        let child := Name.child module name
        let world ← get
        if ((world.module? module).bind (·.searchPath)).isSome then
          try load child catch e =>
            if e.kind = "ModuleNotFoundError" && e.message = missingModule child then pure ()
            else throw e
        let world ← get
        match (← find), world.module? child with
        | some value, _ => bind frame name value
        | none, some _ => bind frame name (.module child)
        | none, none =>
            let record := (world.module? module).getD { name := module }
            let place := match record.file with
              | none => " (unknown location)"
              | some file =>
                  (if record.initializing then " (most likely due to a circular import)" else "")
                    ++ " (" ++ file ++ ")"
            let lead := if record.initializing && record.file.isSome then "partially initialized module "
              else ""
            fail "ImportError" ("cannot import name " ++ Text.quoted name ++ " from " ++ lead
              ++ Text.quoted module ++ place)

def register (base virtual : Object) : Exec Unit := do
  let world ← get
  match base with
  | .cls id =>
      if world.metaclassOf id != .abstractBase && world.metaclassOf id != .protocolBase then
        fail "AttributeError" ("type object " ++ Text.quoted (world.nameOf id)
          ++ " has no attribute 'register'")
      match virtual with
      | .cls other =>
          if world.isSubclass other id then pure ()
          else if world.isSubclass id other then
            fail "RuntimeError" "Refusing to create an inheritance cycle"
          else set (world.modifyClass id fun record => { record with virtuals := record.virtuals ++ [other] })
      | _ => fail "TypeError" "Can only register classes"
  | .module name =>
      fail "AttributeError" ("module " ++ Text.quoted name ++ " has no attribute 'register'")
  | other =>
      fail "AttributeError" (Text.quoted (world.typeName other) ++ " object has no attribute 'register'")

-- The error is one of the kind that a handler names; without a name it handles all.
def handles (frame : Frame) (handler : Option String) (mishap : Mishap) : Exec Bool := do
  match handler with
  | none => return true
  | some name =>
      if (← lookup? frame name).isSome then
        fail "TypeError" "catching classes that do not inherit from BaseException is not allowed"
      else if isErrorName name then return isErrorOf mishap.kind name
      else if name = Statement.noKind then return false
      else undefined name

def outcome (block : Exec Unit) : Exec (Option Mishap) :=
  tryCatch (do block; return none) fun mishap => return some mishap

def inScope (body : Exec Unit) : Exec Bindings := do
  let outer := (← get).scopes
  modify fun world => { world with scopes := [] :: outer }
  let result ← outcome body
  let bindings := ((← get).scopes.head?).getD []
  modify fun world => { world with scopes := outer }
  match result with
  | some mishap => throw mishap
  | none => return bindings

def bindMethods (frame : Frame) (head : ClassHead) : Exec Unit := do
  head.abstractMethods.forM fun name => bind frame name (.function true)
  head.methods.forM fun name => bind frame name (.function false)
  head.attributes.forM fun (name, value) => bind frame name (.constant value)

def define (frame : Frame) (head : ClassHead) (inner : Exec Unit) : Exec Unit := do
  let decorators ← head.tags.mapM (evaluateTag frame)
  let bases ← head.bases.mapM (evaluate frame)
  let world ← get
  let odd := bases.find? fun base => match base with | .cls _ => false | _ => true
  match basesMetaclass world bases with
  | .error text => fail "TypeError" text
  | .ok metaclass =>
      if odd.isSome && 1 < bases.length then fail "TypeError" conflictText
      if metaclass = .enumeration then
        match (classIds bases).find? fun id => ((world.class? id).map hasMembers).getD false with
        | some base =>
            fail "TypeError" ("<enum " ++ Text.quoted head.name.text ++ "> cannot extend " ++ world.classText base)
        | none => pure ()
      let members ← inScope (do bindMethods frame head; inner)
      match odd with
      | some base => fail "TypeError" (refusal world base)
      | none =>
          let id ← createClass frame head (classIds bases) metaclass members
          decorators.reverse.forM fun decorator =>
            match decorator with
            | .tag tag => applyTag tag (.cls id)
            | .constant value => fail "TypeError" (Text.quoted (Literal.typeName value) ++ " object is not callable")
            | .items _ => pure ()
          bind frame head.name.text (.cls id)

-- Runs the first handler that fits; an error that none fits goes on.
def firstHandler (frame : Frame) (mishap : Mishap) : List (Option String × Exec Unit) → Exec Unit
  | [] => throw mishap
  | (handler, body) :: rest => do
      if ← handles frame handler mishap then body else firstHandler frame mishap rest

-- An error of a handler that is part of a group leaves it as a group of one.
def inGroup (handler : Exec Unit) : Exec Unit := do
  match ← outcome handler with
  | none => pure ()
  | some mishap =>
      fail (if isErrorOf mishap.kind "Exception" then "ExceptionGroup" else "BaseExceptionGroup")
        " (1 sub-exception)"

def attempt (frame : Frame) (body : Exec Unit) (handlers : List (Option String × Exec Unit))
    (orelse cleanup : Exec Unit) : Exec Unit := do
  let result ← outcome (do
    match ← outcome body with
    | none => orelse
    | some mishap => firstHandler frame mishap handlers)
  cleanup
  match result with
  | some mishap => throw mishap
  | none => pure ()

mutual
def run (load : String → Exec Unit) (frame : Frame) : Statement → Exec Unit
  | .define head inner =>
      define frame head (runAll load { frame with classes := frame.classes ++ [head.name.text] } inner)
  | .branch condition body orelse =>
      if condition then runAll load frame body else runAll load frame orelse
  | .attempt grouped body handlers orelse cleanup =>
      attempt frame (runAll load frame body) (runHandlers load frame grouped handlers)
        (runAll load frame orelse) (runAll load frame cleanup)
  | .once body => runAll load frame body
  | .function name _ => bind frame name (.function false)
  | .fromImport module name => fromImport load frame module name
  | .importModule module => do
      load module
      let top := (Name.segments module).headD module
      bind frame top (.module top)
  | .raise exception message => do
      if (← lookup? frame exception).isSome then
        fail "TypeError" "exceptions must derive from BaseException"
      else if isErrorName exception then throw (raised exception message)
      else undefined exception
  | .assign name value => bind frame name (.constant value)
  | .rebind name expression => do bind frame name (← evaluate frame expression)
  | .delete name => unbind frame name
  | .register base virtual => do
      let base ← evaluate frame base
      register base (← evaluate frame virtual)
termination_by structural statement => statement
def runAll (load : String → Exec Unit) (frame : Frame) : List Statement → Exec Unit
  | [] => pure ()
  | statement :: rest => do
      run load frame statement
      runAll load frame rest
termination_by structural statements => statements
def runHandlers (load : String → Exec Unit) (frame : Frame) (grouped : Bool) :
    List (Option String × List Statement) → List (Option String × Exec Unit)
  | [] => []
  | (handler, body) :: rest =>
      (handler, if grouped then inGroup (runAll load frame body) else runAll load frame body)
        :: runHandlers load frame grouped rest
termination_by structural handlers => handlers
end

end Exec

end StubForge
