import StubForge.Encoding.Utf8
import StubForge.Session
import StubForge.Template.Bundled
import StubForge.Template.Reader

set_option autoImplicit false

/-!
Finding the templates of schemes. The template folders are searched in their order, and after them
the bundled schemes, so that single templates of a bundled scheme can be replaced.
-/

namespace StubForge

structure Engine where
  folders : List Path := []

namespace Engine

def suffix : String := ".j2"

def entryTemplate : String := "main"

def templatePath (scheme template : String) : String := scheme ++ "/" ++ template ++ suffix

-- The folders and the file that a template path names; a path that climbs names none.
def pieces? (path : String) : Option (List String) :=
  let parts := (Text.splitAt '/' path.toList).map String.ofList
  if parts.contains ".." then none else some (parts.filter fun part => part != "" && part != ".")

inductive Fault where
  | missing
  | malformed (line : Nat)
  | undecodable (fault : DecodeFault)

def fileIn? (disk : Disk) (directory : Place) (pieces : List String) (folder : Path) : Option Bytes :=
  let file : Path := ⟨folder.anchor, folder.parts ++ pieces⟩
  match disk.isFile directory file, disk.find directory file with
  | .ok true, .ok (_, .file (.bytes data)) => some data
  | _, _ => none

def read (engine : Engine) (disk : Disk) (directory : Place) (path : String) :
    Except Fault (List Template.Stmt) :=
  match pieces? path with
  | none => .error .missing
  | some pieces =>
      match engine.folders.findSome? (fileIn? disk directory pieces) with
      | some data => do
          let chars ← (Utf8.decode data).mapError .undecodable
          (Template.read chars).mapError .malformed
      | none =>
          match Template.Bundled.find? (Text.join "/" pieces) with
          | some statements => .ok statements
          | none => .error .missing

def template (engine : Engine) (scheme template : String) : Run (List Template.Stmt) := do
  let session ← get
  match engine.read session.world.disk session.directory (templatePath scheme template) with
  | .ok body => return body
  | .error .missing => Run.fail (.template .notFound scheme template)
  | .error (.malformed line) => Run.fail (.template (.badSyntax line) scheme template)
  | .error (.undecodable fault) => Run.raise "UnicodeDecodeError" fault.message

def hasScheme (engine : Engine) (scheme : String) : Run Bool := do
  match ← Run.outcome (engine.template scheme entryTemplate) with
  | .ok _ => return true
  | .error (.failure _) => return false
  | .error error => throw error

end Engine

end StubForge
