import StubForge.Calendar
import StubForge.Configuration
import StubForge.Namespace.Forest
import StubForge.Tag.Same
import StubForge.Template.Syntax

set_option autoImplicit false

/-!
The values that templates work with: constants and collections of values, and the things that a
generator gives to its templates. A value that is not there carries what is to be said when it is
used.
-/

namespace StubForge.Template

inductive Value where
  | undefined (complaint : String)
  | null
  | bool (value : Bool)
  | int (value : Int)
  | float (value : Real64)
  | text (value : String)
  | list (items : List Value)
  | tuple (items : List Value)
  | dictionary (entries : List (Value × Value))
  -- A sequence that can only be gone through, with the name of its type.
  | stream (type : String) (items : List Value)
  | path (value : String)
  | node (index : Nat)
  | command (value : Command)
  | metadata (value : Metadata)
  | tag (value : Tag)
  | generator
  | configuration
  | forest
  | fragment (name : String) (parameters : List String) (defaults : List Expr) (body : List Stmt)
      (scopes : List (List (String × Value)))
  | method (receiver : Value) (name : String)
  -- The state of a loop: the position of its item and the number of items.
  | loop (index total : Nat)

abbrev Scope := List (String × Value)

structure Scene where
  configuration : Configuration := {}
  forest : Forest := {}
  target : Path := Path.here
  moment : Moment

-- How a rendering goes wrong: by a failure of the program, by a complaint of the template language, or by an
-- error of another kind.
inductive Trouble where
  | failure (failure : Failure)
  | complaint (text : String)
  | mishap (mishap : Mishap)

namespace Trouble

def type (message : String) : Trouble := .mishap { kind := "TypeError", message }

def error : Trouble → Error
  | .failure own => .failure own
  | .complaint text => .raised "UndefinedError" text
  | .mishap foreign => .mishap foreign

end Trouble

namespace Value

/-! ### Types -/

def typeName : Value → String
  | undefined _ => "StrictUndefined"
  | null => "NoneType"
  | bool _ => "bool"
  | int _ => "int"
  | float _ => "float"
  | text _ => "str"
  | list _ => "list"
  | tuple _ => "tuple"
  | dictionary _ => "dict"
  | stream type _ => type
  | path _ => "PosixPath"
  | node _ => "NamespaceNode"
  | command _ => "CommandDescriptor"
  | metadata _ => "CommandMetadata"
  | tag value => value.type.name
  | generator => "GeneratorContext"
  | configuration => "GenerationConfig"
  | forest => "NamespaceTree"
  | .fragment .. => "Macro"
  | method receiver _ =>
      match receiver with
      | generator => "method"
      | node _ => "method"
      | forest => "method"
      | _ => "builtin_function_or_method"
  | loop _ _ => "LoopContext"

def typePath : Value → String
  | null => "None"
  | path _ => "pathlib.PosixPath object"
  | node _ => "ipcstub.core.tree.namespace.NamespaceNode object"
  | command _ => "ipcstub.core.common.command.CommandDescriptor object"
  | metadata _ => "ipcstub.core.common.command_metadata.CommandMetadata object"
  | tag value => "ipcstub.ipc." ++ value.type.name ++ " object"
  | generator => "ipcstub.core.generator.context.GeneratorContext object"
  | configuration => "ipcstub.core.common.models.GenerationConfig object"
  | forest => "ipcstub.core.tree.namespace.NamespaceTree object"
  | .fragment .. => "jinja2.runtime.Macro object"
  | loop _ _ => "jinja2.runtime.LoopContext object"
  | value => typeName value ++ " object"

/-! ### Constants -/

mutual
def ofJson : Json → Value
  | .null => .null
  | .bool value => .bool value
  | .int value => .int value
  | .float value => .float value
  | .string value => .text value
  | .array items => .list (ofItems items)
  | .object members => .dictionary (ofMembers members)
termination_by structural value => value
def ofItems : List Json → List Value
  | [] => []
  | item :: rest => ofJson item :: ofItems rest
termination_by structural items => items
def ofMembers : List (String × Json) → List (Value × Value)
  | [] => []
  | (key, value) :: rest => (.text key, ofJson value) :: ofMembers rest
termination_by structural members => members
end

def ofField : TagField → Value
  | .constant value => ofJson value
  | .tag value => .tag value
  | .items values => .tuple (values.map .tag)

def ofText? : Option String → Value
  | some value => .text value
  | none => .null

def ofTexts (items : List String) : Value := .tuple (items.map .text)

def ofAliases : Option (List (String × String)) → Value
  | none => .null
  | some entries => .dictionary (entries.map fun (short, full) => (.text short, .text full))

def ofCommands (commands : List Command) : Value := .tuple (commands.map .command)

def ofNodes (nodes : List Nat) : Value := .tuple (nodes.map .node)

def ofTags (tags : List Tag) : Value := .tuple (tags.map .tag)

def number? : Value → Option Real64
  | bool value => some (Real64.ofInt (if value then 1 else 0))
  | int value => some (Real64.ofInt value)
  | float value => some value
  | _ => none

def integer? : Value → Option Int
  | bool value => some (if value then 1 else 0)
  | int value => some value
  | _ => none

/-! ### Attributes -/

def configurationFields (config : Configuration) : List (String × Value) := [
  ("name", .text config.name), ("scheme", .text config.scheme),
  ("packages", ofTexts config.packages), ("aliases", ofAliases config.aliases),
  ("target", (config.target.map fun p => Value.path p.toString).getD .null),
  ("legal_text", ofText? config.legalText), ("encoding", ofText? config.encoding)]

def metadataFields (value : Metadata) : List (String × Value) := [
  ("description", ofField value.description), ("deprecated", .bool value.deprecated),
  ("params", ofTags value.params), ("throws", ofTags value.throws),
  ("returns", ofTags value.returns), ("has_meta_informations", .bool value.hasMetaInformations),
  ("tags", ofTags value.tags)]

def field? (name : String) (fields : List (String × Value)) : Option Value :=
  (fields.find? fun field => field.1 == name).map (·.2)

def generatorAttribute? (scene : Scene) (name : String) : Option Value :=
  let config := scene.configuration
  match name with
  | "name" => some (.text config.name)
  | "scheme" => some (.text config.scheme)
  | "packages" => some (ofTexts config.packages)
  | "aliases" => some (ofAliases config.aliases)
  | "target" => some (.path scene.target.toString)
  | "target_directory" => some (.path scene.target.toString)
  | "legal_text" => some (ofText? config.legalText)
  | "encoding" => some (.text config.fileEncoding)
  | "root_packages" => some (ofNodes scene.forest.roots)
  | "commands" => some (ofCommands scene.forest.allCommands)
  | "generation_date" => some (.text scene.moment.headerText)
  | "config" => some .configuration
  | "tree" => some .forest
  | "generate_file" => some (.method .generator name)
  | "include_file" => some (.method .generator name)
  | "render" => some (.method .generator name)
  | "template_context" => some (.method .generator name)
  | _ => none

def nodeAttribute? (forest : Forest) (node : Nat) (name : String) : Option Value :=
  match name with
  | "full_name" => some (.text (forest.fullName node))
  | "name" => some (.text (forest.name node))
  | "parent" => some (((forest.parent? node).map Value.node).getD .null)
  | "packages" => some (ofNodes (forest.children node))
  | "commands" => some (ofCommands (forest.commands node))
  | "depth" => some (.int (forest.depth node))
  | "index" => some (.int node)
  | "tree" => some .forest
  | "walk" => some (.method (.node node) name)
  | _ => none

def commandAttribute? (value : Command) (name : String) : Option Value :=
  match name with
  | "full_name" => some (.text value.fullName)
  | "name" => some (.text value.name)
  | "namespace" => some (.text value.home)
  | "meta" => some (.metadata value.metadata)
  | _ => none

def textMethods : List String :=
  ["splitlines", "strip", "lstrip", "rstrip", "split", "replace", "startswith", "endswith", "join",
    "upper", "lower", "count", "find"]

def dictionaryMethods : List String := ["items", "keys", "values", "get"]

def attribute? (scene : Scene) (value : Value) (name : String) : Option Value :=
  match value with
  | text _ => if textMethods.contains name then some (.method value name) else none
  | dictionary _ => if dictionaryMethods.contains name then some (.method value name) else none
  | path p =>
      let parsed := Path.ofString p
      match name with
      | "name" => some (.text (if parsed.parts.isEmpty then "" else parsed.components.getLast?.getD ""))
      | "parent" => some (.path parsed.parent.toString)
      | "parts" => some (ofTexts parsed.components)
      | _ => none
  | node index => nodeAttribute? scene.forest index name
  | command value => commandAttribute? value name
  | metadata value => field? name (metadataFields value)
  | tag value => (value.field? name).map ofField
  | generator => generatorAttribute? scene name
  | configuration => field? name (configurationFields scene.configuration)
  | forest =>
      match name with
      | "roots" => some (ofNodes scene.forest.roots)
      | "nodes" => some (.method .forest name)
      | "find" => some (.method .forest name)
      | _ => none
  | .fragment name' .. => if name = "name" then some (.text name') else none
  | loop index total =>
      match name with
      | "index" => some (.int (index + 1))
      | "index0" => some (.int index)
      | "revindex" => some (.int (total - index : Nat))
      | "revindex0" => some (.int (total - index - 1 : Nat))
      | "first" => some (.bool (index = 0))
      | "last" => some (.bool (index + 1 = total))
      | "length" => some (.int total)
      | "depth" => some (.int 1)
      | "depth0" => some (.int 0)
      | _ => none
  | _ => none

/-! ### Texts -/

mutual
def shown (scene : Scene) : Value → String
  | undefined _ => "Undefined"
  | null => "None"
  | bool value => if value then "True" else "False"
  | int value => Text.intText value
  | float value => value.text
  | text value => Text.quoted value
  | list items => Literal.enclosed "[" "]" (shownItems scene items)
  | tuple items => Literal.tupleText (shownItems scene items)
  | dictionary entries => Literal.enclosed "\x7b" "\x7d" (shownEntries scene entries)
  | stream type items =>
      if type.startsWith "dict_" then
        type ++ "(" ++ Literal.enclosed "[" "]" (shownItems scene items) ++ ")"
      else "<" ++ type ++ " object>"
  | path value => "PosixPath(" ++ Text.quoted value ++ ")"
  | node index => scene.forest.nodeText index
  | command value => value.shown
  | metadata value =>
      "CommandMetadata(description=" ++ Tag.fieldShown value.description ++ ", deprecated="
        ++ (if value.deprecated then "True" else "False")
        ++ ", params=" ++ Literal.tupleText (Tag.shownAll value.params)
        ++ ", throws=" ++ Literal.tupleText (Tag.shownAll value.throws)
        ++ ", returns=" ++ Literal.tupleText (Tag.shownAll value.returns)
        ++ ", has_meta_informations=" ++ (if value.hasMetaInformations then "True" else "False")
        ++ ", tags=" ++ Literal.tupleText (Tag.shownAll value.tags) ++ ")"
  | tag value => value.shown
  | generator => "<" ++ typePath .generator ++ ">"
  | configuration =>
      "GenerationConfig(" ++ configurationText scene.configuration ", " ++ ")"
  | forest => "<" ++ typePath .forest ++ ">"
  | .fragment name _ _ _ _ => "<Macro " ++ Text.quoted name ++ ">"
  | method receiver name => "<built-in method " ++ name ++ " of " ++ typeName receiver ++ " object>"
  | loop index total =>
      "<LoopContext " ++ Text.natText (index + 1) ++ "/" ++ Text.natText total ++ ">"
termination_by structural value => value
def shownItems (scene : Scene) : List Value → List String
  | [] => []
  | item :: rest => shown scene item :: shownItems scene rest
termination_by structural items => items
def shownEntries (scene : Scene) : List (Value × Value) → List String
  | [] => []
  | (key, value) :: rest => (shown scene key ++ ": " ++ shown scene value) :: shownEntries scene rest
termination_by structural entries => entries
def configurationText (config : Configuration) (separator : String) : String :=
  Text.join separator [
    "name=" ++ Text.quoted config.name, "scheme=" ++ Text.quoted config.scheme,
    "packages=" ++ Literal.tupleText (config.packages.map Text.quoted),
    "aliases=" ++ (match config.aliases with
      | none => "None"
      | some entries => Literal.enclosed "\x7b" "\x7d"
          (entries.map fun (short, full) => Text.quoted short ++ ": " ++ Text.quoted full)),
    "target=" ++ (match config.target with
      | none => "None"
      | some p => "PosixPath(" ++ Text.quoted p.toString ++ ")"),
    "legal_text=" ++ ((config.legalText.map Text.quoted).getD "None"),
    "encoding=" ++ ((config.encoding.map Text.quoted).getD "None")]
end

def plain (scene : Scene) : Value → Except Trouble String
  | undefined complaint => .error (.complaint complaint)
  | text value => .ok value
  | path value => .ok value
  | configuration => .ok (configurationText scene.configuration " ")
  | value => .ok (shown scene value)

/-! ### JSON -/

def notWritable (value : Value) : Trouble :=
  .type ("Object of type " ++ value.typeName ++ " is not JSON serializable")

def keyText? : Value → Option String
  | text value => some value
  | null => some "null"
  | bool value => some (if value then "true" else "false")
  | int value => some (Text.intText value)
  | float value => some value.text
  | _ => none

mutual
def toJson : Value → Except Trouble Json
  | null => .ok .null
  | bool value => .ok (.bool value)
  | int value => .ok (.int value)
  | float value => .ok (.float value)
  | text value => .ok (.string value)
  | list items => (toItems items).map .array
  | tuple items => (toItems items).map .array
  | dictionary entries => (toMembers entries).map .object
  | value => .error (notWritable value)
termination_by structural value => value
def toItems : List Value → Except Trouble (List Json)
  | [] => .ok []
  | item :: rest => do return (← toJson item) :: (← toItems rest)
termination_by structural items => items
def toMembers : List (Value × Value) → Except Trouble (List (String × Json))
  | [] => .ok []
  | (key, value) :: rest =>
      match keyText? key with
      | none =>
          .error (.type ("keys must be str, int, float, bool or None, not " ++ key.typeName))
      | some name => do return (name, ← toJson value) :: (← toMembers rest)
termination_by structural entries => entries
end

/-! ### Comparing -/

def firstComplaint : List Value → Option String
  | [] => none
  | undefined complaint :: _ => some complaint
  | _ :: rest => firstComplaint rest

mutual
def same : Value → Value → Bool
  | null, null => true
  | text a, text b => a == b
  | path a, path b => a == b
  | list a, list b => sameItems a b
  | tuple a, tuple b => sameItems a b
  | dictionary a, dictionary b => a.length == b.length && sameEntries a b
  | node a, node b => a == b
  | command a, command b => a.fullName == b.fullName
  | tag a, tag b => Tag.same a b
  | generator, generator => true
  | configuration, configuration => true
  | forest, forest => true
  | a, b =>
      match number? a, number? b with
      | some x, some y => Real64.compare? x y == some .eq
      | _, _ => false
termination_by structural a => a
def sameItems : List Value → List Value → Bool
  | [], [] => true
  | a :: as, b :: bs => same a b && sameItems as bs
  | _, _ => false
termination_by structural as => as
def sameEntries : List (Value × Value) → List (Value × Value) → Bool
  | [], _ => true
  | (key, value) :: rest, other =>
      (match other.find? fun entry => same key entry.1 with
        | some (_, found) => same value found
        | none => false)
      && sameEntries rest other
termination_by structural entries => entries
end

def lookup (key : Value) (entries : List (Value × Value)) : Option Value :=
  (entries.find? fun entry => same key entry.1).map (·.2)

def isTrue (scene : Scene) : Value → Except Trouble Bool
  | undefined complaint => .error (.complaint complaint)
  | null => .ok false
  | bool value => .ok value
  | int value => .ok (value != 0)
  | float value => .ok (!value.isZero)
  | text value => .ok (value != "")
  | list items => .ok (!items.isEmpty)
  | tuple items => .ok (!items.isEmpty)
  | dictionary entries => .ok (!entries.isEmpty)
  | stream type items => .ok (!type.startsWith "dict_" || !items.isEmpty)
  | forest => .ok (0 < scene.forest.size)
  | _ => .ok true

def iterate (scene : Scene) : Value → Except Trouble (List Value)
  | undefined complaint => .error (.complaint complaint)
  | list items => .ok items
  | tuple items => .ok items
  | stream _ items => .ok items
  | dictionary entries => .ok (entries.map (·.1))
  | text value => .ok (value.toList.map fun c => .text (String.singleton c))
  | configuration =>
      .ok ((configurationFields scene.configuration).map fun (name, value) => .tuple [.text name, value])
  | value => .error (.type (Text.quoted value.typeName ++ " object is not iterable"))

def lengthOf (scene : Scene) : Value → Except Trouble Nat
  | undefined complaint => .error (.complaint complaint)
  | text value => .ok value.length
  | list items => .ok items.length
  | tuple items => .ok items.length
  | dictionary entries => .ok entries.length
  | forest => .ok scene.forest.size
  | loop _ total => .ok total
  | stream type items =>
      if type.startsWith "dict_" then .ok items.length
      else .error (.type ("object of type " ++ Text.quoted type ++ " has no len()"))
  | value => .error (.type ("object of type " ++ Text.quoted value.typeName ++ " has no len()"))

/-! ### Looking things up -/

def noAttribute (value : Value) (name : String) : Value :=
  .undefined (Text.quoted value.typePath ++ " has no attribute " ++ Text.quoted name)

def noElement (scene : Scene) (value key : Value) : Value :=
  match key with
  | text name => noAttribute value name
  | key => .undefined (value.typePath ++ " has no element " ++ shown scene key)

-- The item at a position; negative positions count from the end.
def at? (items : List Value) (position : Int) : Option Value :=
  if 0 ≤ position then items[position.toNat]?
  else if -position ≤ items.length then items[(items.length + position).toNat]?
  else none

def item? (key : Value) : Value → Option Value
  | list items => key.integer?.bind (at? items)
  | tuple items => key.integer?.bind (at? items)
  | text value =>
      key.integer?.bind (at? (value.toList.map fun c => Value.text (String.singleton c)))
  | dictionary entries => lookup key entries
  | _ => none

-- An attribute, or else the item of that name.
def member (scene : Scene) (value : Value) (name : String) : Except Trouble Value :=
  match value with
  | undefined complaint => .error (.complaint complaint)
  | value =>
      .ok ((attribute? scene value name <|> item? (.text name) value).getD (noAttribute value name))

-- An item, or else the attribute of that name.
def item (scene : Scene) (value key : Value) : Except Trouble Value :=
  match value, key with
  | undefined complaint, _ => .error (.complaint complaint)
  | dictionary _, undefined complaint => .error (.complaint complaint)
  | value, key =>
      match item? key value with
      | some found => .ok found
      | none =>
          match key with
          | text name => .ok ((attribute? scene value name).getD (noAttribute value name))
          | key => .ok (noElement scene value key)

end Value

end StubForge.Template
