import StubForge.Configuration.Document
import StubForge.Session
import StubForge.Yaml.Data

set_option autoImplicit false

/-!
The settings of a run, as a settings file gives them. Relative paths in a file are taken relative to
the folder that the file lies in.
-/

namespace StubForge

def defaultOutput : String := "build/ipcstub"

def defaultCapability : String := "ipcstub.ipc.IpcCommand"

structure Settings where
  generators : List Configuration := []
  classpath : List Path := []
  output : Path := Path.ofString defaultOutput
  capability : String := defaultCapability
  failFast : Bool := true
  templateFolders : List Path := []

namespace Settings

open Reading

def fieldNames : List (List String) :=
  [["generators"], ["classpath"], ["output"], ["capability"], ["fail_fast"], ["template_dirs"]]

def ofRecord (record : Fields) : Reading Settings :=
  let generators :=
    record.field ["generators"] [] (listOf (recordOf Configuration.ofRecord) "list_type")
  let classpath := record.field ["classpath"] [] (listOf path "list_type")
  let output := record.field ["output"] (Path.ofString defaultOutput) path
  let capability := record.field ["capability"] defaultCapability text
  let failFast := record.field ["fail_fast"] true switch
  let templateFolders := record.field ["template_dirs"] [] (listOf path "list_type")
  record.complete fieldNames
    (apply (apply (apply (apply (apply (generators.map Settings.mk) classpath) output) capability)
      failFast) templateFolders)

def below (folder : Path) (settings : Settings) : Settings :=
  { settings with
    classpath := settings.classpath.map folder.join
    output := folder.join settings.output
    templateFolders := settings.templateFolders.map folder.join
    generators := settings.generators.map fun config =>
      { config with target := config.target.map folder.join } }

def isText : Datum → Bool
  | .text _ => true
  | _ => false

def keysText : String := "keywords must be strings"

def ofDatum (datum : Datum) : Except Error Settings :=
  match if datum.isEmpty then .mapping [] else datum with
  | .mapping entries =>
      if entries.all fun entry => isText entry.1 then
        (ofRecord { location := [], entries }).mapError fun details =>
          .configuration (.settingsInvalid details)
      else .error (.raised "TypeError" keysText)
  | _ => .error (.configuration .settingsNotMapping)

def documentError : Yaml.Fault → Error
  | .malformed => .configuration .settingsUnparsable
  | .mishap mishap => .mishap mishap

def read (document : String) (folder : Option Path) : Except Error Settings := do
  let datum ← (Yaml.read document.toList).mapError documentError
  let settings ← ofDatum datum
  match folder with
  | some folder => .ok (settings.below folder)
  | none => .ok settings

-- The text of a file, with all line ends made alike.
def textOf (content : Content) : Except Error String :=
  match content with
  | .bytes data =>
      match Utf8.decode data with
      | .ok chars => .ok (String.ofList (Text.unifyNewlines chars))
      | .error fault => .error (.raised "UnicodeDecodeError" fault.message)
  | _ => .ok ""

def load (file : Path) : Run Settings := do
  let session ← get
  let disk := session.world.disk
  match disk.existsAt session.directory file, disk.find session.directory file with
  | .error errno, _ => Run.failOn errno file.toString
  | .ok true, .ok (_, .folder) => Run.failOn .isFolder file.toString
  | .ok true, .ok (_, .file content) =>
      match do read (← textOf content) (some file.parent) with
      | .ok settings => return settings
      | .error error => throw error
  | _, _ => Run.fail (.configuration (.settingsMissing file.toString))

end Settings

end StubForge
