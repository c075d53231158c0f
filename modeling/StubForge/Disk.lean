import StubForge.Library.Statement
import StubForge.Path
import StubForge.Literal

set_option autoImplicit false

/-!
A file system without links: what lies under which absolute path, and the operations on it with the
reasons for which they fail.
-/

namespace StubForge

abbrev Bytes := List UInt8

inductive MemberBody where
  | bytes (data : Bytes)
  | module (body : List Statement)

structure Member where
  path : String
  body : MemberBody
  -- The checksum of the member does not match its data.
  corrupt : Bool := false

abbrev Archive := List Member

inductive Content where
  | bytes (data : Bytes)
  | module (body : List Statement)
  | archive (members : Archive)

inductive Entry where
  | folder
  | file (content : Content)

abbrev Place := List String

structure Disk where
  entries : List (Place × Entry) := []

inductive Errno where
  | noEntry
  | alreadyExists
  | notFolder
  | isFolder
  | nameTooLong
  deriving DecidableEq, Repr

def Errno.number : Errno → Nat
  | noEntry => 2
  | alreadyExists => 17
  | notFolder => 20
  | isFolder => 21
  | nameTooLong => 36

def Errno.text : Errno → String
  | noEntry => "No such file or directory"
  | alreadyExists => "File exists"
  | notFolder => "Not a directory"
  | isFolder => "Is a directory"
  | nameTooLong => "File name too long"

def Errno.kind : Errno → String
  | noEntry => "FileNotFoundError"
  | alreadyExists => "FileExistsError"
  | notFolder => "NotADirectoryError"
  | isFolder => "IsADirectoryError"
  | nameTooLong => "OSError"

def Errno.message (errno : Errno) (path : String) : String :=
  "[Errno " ++ Text.natText errno.number ++ "] " ++ errno.text ++ ": " ++ Text.quoted path

namespace Disk

def at? (disk : Disk) (place : Place) : Option Entry :=
  if place.isEmpty then some .folder
  else (disk.entries.find? fun entry => entry.1 == place).map (·.2)

-- Puts an entry at a place, in the position of an older one.
def put (place : Place) (entry : Entry) : List (Place × Entry) → List (Place × Entry)
  | [] => [(place, entry)]
  | (p, e) :: rest => if p = place then (place, entry) :: rest else (p, e) :: put place entry rest

def set (disk : Disk) (place : Place) (entry : Entry) : Disk :=
  { disk with entries := put place entry disk.entries }

def nameLimit : Nat := 255

def tooLong (name : String) : Bool := nameLimit < name.utf8ByteSize

-- Follows components from a folder; all but the last must be folders.
def follow (disk : Disk) : Place → List String → Except Errno Place
  | place, [] => .ok place
  | place, name :: rest =>
      if name = ".." then follow disk place.dropLast rest
      else if tooLong name then .error .nameTooLong
      else
        let next := place ++ [name]
        match disk.at? next with
        | none => .error .noEntry
        | some .folder => follow disk next rest
        | some (.file _) => if rest.isEmpty then .ok next else .error .notFolder

def start (directory : Place) (path : Path) : Place :=
  match path.anchor with
  | .relative => directory
  | _ => []

def locate (disk : Disk) (directory : Place) (path : Path) : Except Errno Place :=
  disk.follow (start directory path) path.parts

def find (disk : Disk) (directory : Place) (path : Path) : Except Errno (Place × Entry) := do
  let place ← disk.locate directory path
  match disk.at? place with
  | some entry => .ok (place, entry)
  | none => .error .noEntry

-- What a question about a path answers: a missing entry is a plain no, an overlong name is not.
def ask (disk : Disk) (directory : Place) (path : Path) (question : Entry → Bool) :
    Except Errno Bool :=
  if path.hasNul then .ok false
  else
    match disk.find directory path with
    | .ok (_, entry) => .ok (question entry)
    | .error .nameTooLong => .error .nameTooLong
    | .error _ => .ok false

def isFolder (disk : Disk) (directory : Place) (path : Path) : Except Errno Bool :=
  disk.ask directory path fun entry => match entry with | .folder => true | .file _ => false

def isFile (disk : Disk) (directory : Place) (path : Path) : Except Errno Bool :=
  disk.ask directory path fun entry => match entry with | .folder => false | .file _ => true

def existsAt (disk : Disk) (directory : Place) (path : Path) : Except Errno Bool :=
  disk.ask directory path fun _ => true

-- The folder that a path lies in, and its last component; `none` for a path that ends in a folder by its
-- form.
def slotOf (disk : Disk) (directory : Place) (path : Path) : Except Errno (Option (Place × String)) :=
  match path.parts.getLast? with
  | none => .ok none
  | some ".." => do
      let _ ← disk.locate directory path
      .ok none
  | some name => do
      let place ← disk.follow (start directory path) path.parts.dropLast
      match disk.at? place with
      | some .folder => if tooLong name then .error .nameTooLong else .ok (some (place, name))
      | some (.file _) => .error .notFolder
      | none => .error .noEntry

def makeFolder (disk : Disk) (directory : Place) (path : Path) : Except Errno Disk := do
  match ← disk.slotOf directory path with
  | none => .error .alreadyExists
  | some (place, name) =>
      match disk.at? (place ++ [name]) with
      | some _ => .error .alreadyExists
      | none => .ok (disk.set (place ++ [name]) .folder)

def ensureFolder (disk : Disk) (directory : Place) (path : Path) : Except (Errno × Path) Disk :=
  match disk.makeFolder directory path with
  | .ok disk => .ok disk
  | .error errno =>
      match errno, disk.isFolder directory path with
      | .noEntry, _ => .error (.noEntry, path)
      | _, .ok true => .ok disk
      | errno, _ => .error (errno, path)

-- Makes a folder and the missing folders above it. What was made before a failure stays.
def ensureFoldersFrom : Nat → Disk → Place → Path → Except (Errno × Path) Unit × Disk
  | 0, disk, _, _ => (.ok (), disk)
  | levels + 1, disk, directory, path =>
      match disk.makeFolder directory path with
      | .ok made => (.ok (), made)
      | .error .noEntry =>
          if path.parts.isEmpty then (.error (.noEntry, path), disk)
          else
            match ensureFoldersFrom levels disk directory path.parent with
            | (.error failure, disk) => (.error failure, disk)
            | (.ok (), disk) =>
                match disk.ensureFolder directory path with
                | .ok made => (.ok (), made)
                | .error failure => (.error failure, disk)
      | .error errno =>
          match disk.isFolder directory path with
          | .ok true => (.ok (), disk)
          | _ => (.error (errno, path), disk)

def ensureFolders (disk : Disk) (directory : Place) (path : Path) :
    Except (Errno × Path) Unit × Disk :=
  ensureFoldersFrom (path.parts.length + 1) disk directory path

def openPlace (disk : Disk) (directory : Place) (path : Path) : Except Errno Place := do
  match ← disk.slotOf directory path with
  | none => .error .isFolder
  | some (place, name) =>
      match disk.at? (place ++ [name]) with
      | some .folder => .error .isFolder
      | _ => .ok (place ++ [name])

def writeFile (disk : Disk) (place : Place) (data : Bytes) : Disk :=
  disk.set place (.file (.bytes data))

-- All places strictly below a folder, each with the components below it.
def below (disk : Disk) (place : Place) : List (List String × Entry) :=
  disk.entries.filterMap fun (p, entry) =>
    if place.isPrefixOf p && p.length != place.length then some (p.drop place.length, entry) else none

theorem find_put (place other : Place) (entry : Entry) (entries : List (Place × Entry)) :
    (put place entry entries).find? (·.1 == other) =
      if place = other then some (place, entry) else entries.find? (·.1 == other) := by
  induction entries with
  | nil => by_cases same : place = other <;> simp [put, same]
  | cons first rest ih =>
      obtain ⟨p, e⟩ := first
      by_cases here : p = place
      · subst here
        by_cases same : p = other <;> simp [put, same]
      · by_cases same : place = other
        · subst same
          simp [put, here, ih]
        · by_cases found : p = other
          · subst found
            simp [put, here, same]
          · simp [put, here, found, same, ih]

theorem at_set (disk : Disk) (place other : Place) (entry : Entry) (inner : other ≠ []) :
    (disk.set place entry).at? other =
      if place = other then some entry else disk.at? other := by
  have full : other.isEmpty = false := by simpa using inner
  by_cases same : place = other <;> simp [at?, set, full, find_put, same]

end Disk

end StubForge
