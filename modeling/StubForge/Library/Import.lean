import StubForge.Library.Execute

set_option autoImplicit false

/-!
Finding and loading modules. A folder or an archive may hold a package, a module, or a folder that
is a part of a package without source; the first place that has one of the first two wins, and the
parts of a package without source are collected from all places.
-/

namespace StubForge

inductive Finding where
  | source (file : String) (searchPath : Option (List String)) (body : MemberBody)
  | portion (place : String)
  | nothing

namespace Import

def initFile : String := "__init__.py"

def bodyOf : Content → Option MemberBody
  | .bytes data => some (.bytes data)
  | .module body => some (.module body)
  | .archive _ => none

def fileAt? (disk : Disk) (place : Place) : Option MemberBody :=
  match disk.at? place with
  | some (.file content) => bodyOf content
  | _ => none

def isFolderAt (disk : Disk) (place : Place) : Bool :=
  match disk.at? place with
  | some .folder => true
  | _ => false

def archiveAbove (disk : Disk) : Place → List String → Option (Archive × Place × List String)
  | _, [] => none
  | above, name :: rest =>
      match disk.at? (above ++ [name]) with
      | some (.file (.archive members)) => some (members, above ++ [name], rest)
      | some .folder => archiveAbove disk (above ++ [name]) rest
      | _ => none

-- The last member of a name counts.
def member? (archive : Archive) (path : String) : Option Member :=
  archive.reverse.find? fun member => member.path == path

def findInFolder (disk : Disk) (entry : String) (place : Place) (name : String) : Finding :=
  let package := place ++ [name]
  let base := entry ++ "/" ++ name
  match fileAt? disk (package ++ [initFile]) with
  | some body => .source (base ++ "/" ++ initFile) (some [base]) body
  | none =>
      match fileAt? disk (place ++ [name ++ ".py"]) with
      | some body => .source (base ++ ".py") none body
      | none => if isFolderAt disk package then .portion base else .nothing

def findInArchive (archive : Archive) (entry : String) (inner : List String) (name : String) :
    Finding :=
  let base := Text.join "/" (inner ++ [name])
  let place := entry ++ "/" ++ name
  match member? archive (base ++ "/" ++ initFile) with
  | some member => .source (place ++ "/" ++ initFile) (some [place]) member.body
  | none =>
      match member? archive (base ++ ".py") with
      | some member => .source (place ++ ".py") none member.body
      | none => if archive.any (·.path == base ++ "/") then .portion place else .nothing

def findIn (disk : Disk) (entry name : String) : Finding :=
  let place := (Path.ofString entry).parts
  if isFolderAt disk place then findInFolder disk entry place name
  else
    match archiveAbove disk [] place with
    | some (archive, _, inner) => findInArchive archive entry inner name
    | none => .nothing

-- Looks through places in order; `parts` collects what was found of a package without source.
def search (disk : Disk) (name : String) : List String → List String → Finding × List String
  | parts, [] => (.nothing, parts)
  | parts, entry :: rest =>
      match findIn disk entry name with
      | .source file searchPath body => (.source file searchPath body, parts)
      | .portion place => search disk name (parts ++ [place]) rest
      | .nothing => search disk name parts rest

def dunderBindings (name : String) (file : Option String) (searchPath : Option (List String))
    (fromArchive : Bool) : Bindings :=
  let package := if searchPath.isSome then name else Name.parent name
  let loader := match file with
    | none => "NamespaceLoader"
    | some _ => if fromArchive then "zipimporter" else "SourceFileLoader"
  [("__name__", .constant (.string name)), ("__doc__", .constant .null),
    ("__package__", .constant (.string package)), ("__loader__", .instance loader),
    ("__spec__", .instance "ModuleSpec")]
  ++ (searchPath.map fun places => ("__path__", match file with
      | none => .instance "_NamespacePath"
      | some _ => Object.constant (.array (places.map Json.string)))).toList
  ++ (file.map fun text => ("__file__", .constant (.string text))).toList
  ++ [("__cached__", .constant .null), ("__builtins__", .constant (.object [])),
    ("__dict__", .constant (.object []))]

def statementsOf (readSource : Bytes → Except Mishap (List Statement)) :
    MemberBody → Except Mishap (Bool × List Statement)
  | .module body => .ok (true, body)
  | .bytes data => (readSource data).map fun body => (false, body)

def outsideScopes (block : Exec Unit) : Exec Unit := do
  let outer := (← get).scopes
  modify fun world => { world with scopes := [] }
  let result ← Exec.outcome block
  modify fun world => { world with scopes := outer }
  match result with
  | some mishap => throw mishap
  | none => pure ()

-- Loads what was found under a name; a module that fails while running is forgotten.
def install (run : Frame → List Statement → Exec Unit)
    (readSource : Bytes → Except Mishap (List Statement)) (name : String) (finding : Finding)
    (parts : List String) : Exec Unit := do
  match finding with
  | .source file searchPath body =>
      let inArchive := (archiveAbove (← get).disk [] (Path.ofString file).parts).isSome
      let record : ModuleRecord :=
        { name, file := some file, searchPath, initializing := true
          globals := dunderBindings name (some file) searchPath inArchive }
      modify fun world => world.setModule record
      let result ← Exec.outcome (do
        match statementsOf readSource body with
        | .error mishap => throw mishap
        | .ok (headed, statements) =>
            if headed then
              modify fun world => world.modifyModule name fun record =>
                { record with globals := record.globals ++ World.headerBindings }
            outsideScopes (run { module := name } statements))
      match result with
      | some mishap =>
          modify fun world => world.forgetModule name
          throw mishap
      | none =>
          modify fun world => world.modifyModule name fun record =>
            { record with initializing := false }
  | _ =>
      if parts.isEmpty then Exec.fail "ModuleNotFoundError" (Exec.missingModule name)
      else
        let record : ModuleRecord :=
          { name, searchPath := some parts, globals := dunderBindings name none (some parts) false }
        modify fun world => world.setModule record

-- Loads a module and, before it, the packages it lies in.
def loadFrom (readSource : Bytes → Except Mishap (List Statement)) : Nat → String → Exec Unit
  | 0, _ => Exec.fail "RecursionError" "maximum recursion depth exceeded"
  | fuel + 1, name => do
      let load := loadFrom readSource fuel
      let run := Exec.runAll load
      if ((← get).module? name).isSome then pure ()
      else
        match (Name.splitLast name.toList).1 with
        | none =>
            let world ← get
            let (finding, parts) := search world.disk name [] world.path
            install run readSource name finding parts
        | some above =>
            let parent := String.ofList above
            if parent = "" then Exec.fail "ValueError" "Empty module name"
            load parent
            let world ← get
            if (world.module? name).isSome then pure ()
            else
              match (world.module? parent).bind (·.searchPath) with
              | none =>
                  Exec.fail "ModuleNotFoundError"
                    (Exec.missingModule name ++ "; " ++ Text.quoted parent ++ " is not a package")
              | some places =>
                  let (finding, parts) := search world.disk (Name.last name) [] places
                  install run readSource name finding parts
                  modify fun world => world.modifyModule parent fun record =>
                    { record with
                      globals := Json.setMember (Name.last name) (.module name) record.globals }

-- How deep loads may be nested. A load takes more than one of the calls that may be nested in a process, so that no
-- library that can be loaded comes to the limit.
def depthLimit : Nat := 1000

def load (readSource : Bytes → Except Mishap (List Statement)) (name : String) : Exec Unit := do
  if name.startsWith "." then
    Exec.fail "TypeError"
      ("the 'package' argument is required to perform a relative import for " ++ Text.quoted name)
  else if name = "" then Exec.fail "ValueError" "Empty module name"
  else loadFrom readSource depthLimit name

end Import

end StubForge
