import StubForge.Encoding.Codec
import StubForge.Engine
import StubForge.Template.Render

set_option autoImplicit false

/-!
The generator of one configuration: rendering the templates of its scheme, into text or into files
below its target. Templates call the generator back, so a rendering may contain others.
-/

namespace StubForge

open Template

structure Generator where
  engine : Engine
  scene : Scene

namespace Generator

def config (generator : Generator) : Configuration := generator.scene.configuration

def scheme (generator : Generator) : String := generator.config.scheme

def globals (generator : Generator) (args : Value) : Scope := [
  ("generator", .generator), ("config", .configuration),
  ("packages", Value.ofNodes generator.scene.forest.roots),
  ("aliases", Value.ofAliases generator.config.aliases), ("args", args)]

/-! ### Rendering -/

-- A failure of the program goes on as it is; everything else becomes a failure of the template that was being
-- rendered.
def blame (scheme template : String) : Trouble → Trouble
  | .failure failure => .failure failure
  | .complaint text => .failure (.of none (.template (.notMerged text) scheme template))
  | .mishap mishap =>
      .failure (.of none (.template (.notMerged (mishap.kind ++ ": " ++ mishap.message)) scheme template))

def renderWith (services : Services) (engine : Engine) (scene : Scene) (scheme template : String)
    (globals : Scope) : Render String := do
  let body ← Render.ofRun (engine.template scheme template)
  let path := Engine.templatePath scheme template
  Render.ofRun (Run.say .debug ("Rendering " ++ path))
  tryCatch
    (do return (← renderAll services scene path { globals } body).2)
    (fun trouble => throw (blame scheme template trouble))

def renderArgs (services : Services) (generator : Generator) (template : String) (args : Value) :
    Render String :=
  renderWith services generator.engine generator.scene generator.scheme template
    (generator.globals args)

/-! ### Files -/

def nulText : String := "embedded null byte"

-- The file that a path below the target stands for, unless it lies elsewhere.
def fileFor (directory : Place) (scene : Scene) (scheme : String) (relative : Path)
    (relativeText : String) : Except Trouble Path :=
  let target := scene.target.resolve directory
  let file := (target.join relative).resolve directory
  if scene.target.hasNul || (target.join relative).hasNul then
    .error (.mishap { kind := "ValueError", message := nulText })
  else if file.strictlyBelow target then .ok file
  else
    .error (.failure (.of none (.output (.outside relativeText target.toString) (some scheme))))

def textCodecNeeded (name : String) : String :=
  Text.quoted name ++ " is not a text encoding; use codecs.open() to handle arbitrary codecs"

def encode (encoding text : String) : Except String Bytes :=
  match Codec.lookup? encoding with
  | none => .error ("unknown encoding: " ++ encoding)
  | some codec =>
      if codec.isText then (codec.written text).mapError EncodeFault.message
      else .error (textCodecNeeded encoding)

-- Writes a text into a file, making the folders above it. The file is emptied before the text is encoded.
def writeText (disk : Disk) (directory : Place) (file : Path) (encoding text : String) :
    Except String Unit × Disk :=
  match disk.ensureFolders directory file.parent with
  | (.error (errno, path), disk) => (.error (errno.message path.toString), disk)
  | (.ok (), disk) =>
      match disk.openPlace directory file with
      | .error errno => (.error (errno.message file.toString), disk)
      | .ok place =>
          match encode encoding text with
          | .ok bytes => (.ok (), disk.writeFile place bytes)
          | .error cause => (.error cause, disk.writeFile place [])

def writeFile (generator : Generator) (file : Path) (text : String) : Render Unit := do
  let stage ← get
  let session := stage.session
  let (result, disk) :=
    writeText session.world.disk session.directory file generator.config.fileEncoding text
  Render.ofRun (Run.setDisk disk)
  match result with
  | .ok () => modify fun stage => { stage with files := stage.files ++ [file] }
  | .error cause =>
      throw (.failure (.of none (.output (.fileNotCreated file.toString cause) (some generator.scheme))))

-- Renders a template into a file below the target. A path that leads elsewhere is refused before anything is
-- rendered.
def generateFile (services : Services) (generator : Generator) (relative : Path)
    (relativeText template : String) (args : Value) : Render Unit := do
  let directory := (← get).session.directory
  let file ← Render.ofResult
    (fileFor directory generator.scene generator.scheme relative relativeText)
  let text ← renderArgs services generator template args
  Render.ofRun (Run.say .info ("Generating " ++ file.toString ++ "..."))
  writeFile generator file text

/-! ### Calls from templates -/

def pathOf : Value → Except Trouble (Path × String)
  | .undefined complaint => .error (.complaint complaint)
  | .text text => .ok (Path.ofString text, text)
  | .path text => .ok (Path.ofString text, text)
  | value =>
      .error (.type ("unsupported operand type(s) for /: 'PosixPath' and " ++ Text.quoted value.typeName))

def optional (value : Option Value) : Value := value.getD .null

def callGenerator (services : Services) (generator : Generator) (method : String) (args : List Value)
    (named : List (String × Value)) : Render Value := do
  let callee := "GeneratorContext." ++ method
  if method = "generate_file" then
    match ← Render.ofResult
      (Value.bound callee [("relative_path", false), ("template", false), ("args", true)] args named) with
    | [some relative, some template, args] =>
        let (path, text) ← Render.ofResult (pathOf relative)
        match template with
        | .undefined complaint => throw (.complaint complaint)
        | template =>
            let template ← Render.ofResult (template.plain generator.scene)
            generateFile services generator path text template (optional args)
            return .text ""
    | _ => return .null
  else if method = "template_context" then
    let found ← Render.ofResult (Value.bound callee [("args", true)] args named)
    let names := generator.globals (optional (found.head?.bind id))
    return .dictionary (names.map fun (name, value) => (.text name, value))
  else
    match ← Render.ofResult (Value.bound callee [("template", false), ("args", true)] args named) with
    | [some template, args] =>
        let template ← Render.ofResult (template.plain generator.scene)
        return .text (← renderArgs services generator template (optional args))
    | _ => return .null

def insertTemplate (services : Services) (generator : Generator) (names : Scope) (path : String)
    (ignoreMissing : Bool) : Render String := do
  let session := (← get).session
  match generator.engine.read session.world.disk session.directory path with
  | .ok body => return (← renderAll services generator.scene path { globals := names } body).2
  | .error .missing => if ignoreMissing then return "" else throw (.complaint path)
  | .error (.malformed _) => throw (.complaint "invalid template syntax")
  | .error (.undecodable fault) =>
      throw (.mishap { kind := "UnicodeDecodeError", message := fault.message })

def tooDeep : Trouble :=
  .mishap { kind := "RecursionError", message := "maximum recursion depth exceeded" }

def services (generator : Generator) : Nat → Services
  | 0 => { call := fun _ _ _ _ _ => throw tooDeep, insert := fun _ _ _ => throw tooDeep }
  | depth + 1 =>
      let inner := services generator depth
      { call := fun template env callee args named =>
          match callee with
          | .fragment name parameters defaults body locals =>
              callFragment inner generator.scene template { env with locals } name parameters defaults body args named
          | .method .generator method => callGenerator inner generator method args named
          | other => throw (.type (Text.quoted other.typeName ++ " object is not callable"))
        insert := insertTemplate inner generator }

-- Calls may be nested as deep as a forest can be and a fixed number more.
def depthLimit (generator : Generator) : Nat := generator.scene.forest.size + 1000

def render (generator : Generator) (template : String) (args : Value) : Render String :=
  renderArgs (generator.services generator.depthLimit) generator template args

def generate (generator : Generator) (relative template : String) (args : Value) : Render Unit :=
  generateFile (generator.services generator.depthLimit) generator (Path.ofString relative) relative
    template args

def renderPlain (engine : Engine) (moment : Moment) (scheme template : String) (names : Scope) :
    Render String :=
  let generator : Generator := { engine, scene := { moment } }
  renderWith (generator.services generator.depthLimit) engine generator.scene scheme template names

end Generator

end StubForge
