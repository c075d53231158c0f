import StubForge.ModuleName
import StubForge.Order
import StubForge.Session
import StubForge.Source.Block

set_option autoImplicit false

/-!
Listing the types below the roots of a class path. A root is a folder or an archive; sources are read
and not run. Folders list their files by components, archives their members by their whole names.
-/

namespace StubForge

structure SourceUnit where
  module : String
  origin : String
  body : MemberBody

namespace SourceUnit

-- The names of the classes that a source defines at module level, unless it is malformed.
def classNames? (source : SourceUnit) : Option (List String) :=
  match source.body with
  | .module statements => some (Source.classNames statements)
  | .bytes data => (Source.read? data).map Source.classNames

def skipText (origin : String) : String := "Skipping " ++ origin ++ ", cannot parse source"

-- The full names of a source's types, and the record of a source that is skipped.
def typeNames (source : SourceUnit) : List String × List Record :=
  match source.classNames? with
  | some names => (names.map (Name.child source.module), [])
  | none => ([], [{ level := .warning, message := skipText source.origin }])

end SourceUnit

namespace ClassPath

-- The module of a path is wanted if it can define types below the packages; without packages all are.
def wanted (packages : Option (List String)) (module : String) : Bool :=
  match packages with
  | none => true
  | some packages => Name.mayContain module packages

def hasSourceName (components : List String) : Bool :=
  match components.getLast? with
  | some name => sourceSuffix.isSuffixOf name.toList
  | none => false

def sourceFiles (disk : Disk) (place : Place) : List (List String × Content) :=
  let found := (disk.below place).filterMap fun (components, entry) =>
    match entry with
    | .file content => if hasSourceName components then some (components, content) else none
    | .folder => none
  Order.sort (fun a b => Order.namesBefore a.1 b.1) found

def bodyOf : Content → MemberBody
  | .bytes data => .bytes data
  | .module statements => .module statements
  | .archive _ => .bytes [0]

def folderUnit? (root : Path) (packages : Option (List String)) (components : List String)
    (content : Content) : Option SourceUnit :=
  match moduleName? ⟨.relative, components⟩ with
  | none => none
  | some module =>
      if wanted packages module then
        some { module, origin := (root.join ⟨.relative, components⟩).toString, body := bodyOf content }
      else none

def folderUnits (disk : Disk) (place : Place) (root : Path) (packages : Option (List String)) :
    List SourceUnit :=
  (sourceFiles disk place).filterMap fun (components, content) =>
    folderUnit? root packages components content

-- The last member of a name holds its data.
def lastNamed (archive : Archive) (name : String) : Option Member :=
  archive.reverse.find? fun member => member.path == name

def damageText (name : String) : String := "Bad CRC-32 for file " ++ Text.quoted name

-- Reads the wanted members of an archive in order; the first damaged one makes it unreadable.
def archiveUnitsFrom (archive : Archive) (root : String) (packages : Option (List String)) :
    List String → Except String (List SourceUnit)
  | [] => .ok []
  | name :: rest =>
      match moduleName? (Path.ofString name) with
      | none => archiveUnitsFrom archive root packages rest
      | some module =>
          if !wanted packages module then archiveUnitsFrom archive root packages rest
          else
            match lastNamed archive name with
            | none => archiveUnitsFrom archive root packages rest
            | some member =>
                if member.corrupt then .error (damageText name)
                else
                  (archiveUnitsFrom archive root packages rest).map fun units =>
                    { module, origin := root ++ "!" ++ name, body := member.body } :: units

def memberNames (archive : Archive) : List String :=
  Order.sort Order.textBefore (archive.map (·.path))

def notArchiveText : String := "File is not a zip file"

inductive RootFault where
  | unreadable (fault : ClasspathFault)
  | disk (errno : Errno) (path : String)

def rootUnits (disk : Disk) (directory : Place) (root : Path) (packages : Option (List String)) :
    Except RootFault (List SourceUnit) :=
  let text := root.toString
  match disk.isFolder directory root with
  | .error errno => .error (.disk errno text)
  | .ok _ =>
      match disk.find directory root with
      | .ok (place, .folder) => .ok (folderUnits disk place root packages)
      | .ok (_, .file (.archive archive)) =>
          match archiveUnitsFrom archive text packages (memberNames archive) with
          | .ok units => .ok units
          | .error cause => .error (.unreadable (.unreadableArchive text cause))
      | .ok (_, .file _) => .error (.unreadable (.unreadableArchive text notArchiveText))
      | .error _ => .error (.unreadable (.missingRoot text))

def addNames (names more : List String) : List String :=
  more.foldl (fun all name => if all.contains name then all else all ++ [name]) names

-- The type names of units in order, each once, with the records of the skipped ones.
def unitNames (names : List String) (units : List SourceUnit) : List String × List Record :=
  units.foldl
    (fun (names, records) source =>
      let (more, skipped) := source.typeNames
      (addNames names more, records ++ skipped))
    (names, [])

structure Scan where
  names : List String := []
  readable : Nat := 0
  records : List Record := []

-- Goes on with one more root; a root that cannot be read is recorded and left out.
def scanRoot (disk : Disk) (directory : Place) (packages : Option (List String)) (scan : Scan)
    (root : Path) : Except (Error × List Record) Scan :=
  match rootUnits disk directory root packages with
  | .ok units =>
      let (names, records) := unitNames scan.names units
      .ok { names, readable := scan.readable + 1, records := scan.records ++ records }
  | .error (.unreadable fault) =>
      .ok { scan with records := scan.records ++ [{ level := .warning, message := fault.message }] }
  | .error (.disk errno path) =>
      .error (.raised errno.kind (errno.message path), scan.records)

def foundText (count : Nat) : String := "Found " ++ Text.natText count ++ " types on the classpath"

-- The full names of all types below the roots, and the records of the search.
def scanOf (disk : Disk) (directory : Place) (roots : List Path) (packages : Option (List String)) :
    Except Error (List String) × List Record :=
  if roots.isEmpty then (.error (.classpath .noRoots), [])
  else
    match roots.foldlM (scanRoot disk directory packages) {} with
    | .error (error, records) => (.error error, records)
    | .ok scan =>
        if scan.readable = 0 then
          (.error (.classpath (.noneReadable (roots.map Path.toString))), scan.records)
        else
          (.ok scan.names,
            scan.records ++ [{ level := .debug, message := foundText scan.names.length }])

def scan (roots : List Path) (packages : Option (List String)) : Run (List String) := do
  let session ← get
  let (result, records) := scanOf session.world.disk session.directory roots packages
  modify fun session => { session with records := session.records ++ records }
  match result with
  | .ok names => return names
  | .error error => throw error

end ClassPath

end StubForge
