import StubForge.Configuration.Check
import StubForge.Discovery
import StubForge.Generator
import StubForge.Namespace.Build
import StubForge.Settings

set_option autoImplicit false

/-!
Running configurations that share one class path: their commands are looked for once, and each
configuration then renders its share of them below its own target. A configuration that fails either
ends the run, or is reported at the end while the others go on.
-/

namespace StubForge

structure Plan where
  configurations : List Configuration
  classpath : List Path
  output : Path := Path.ofString defaultOutput
  engine : Engine := {}
  failFast : Bool := true
  capability : Discovery.Capability := .known World.commandId
  -- Seconds since 1970 that the generated files are dated with.
  clock : String

structure Product where
  name : String
  target : Path
  files : List Path

namespace Plan

/-! ### Discovery -/

def allPackages (configs : List Configuration) : List String :=
  ClassPath.addNames [] (configs.flatMap (·.packages))

def aliasRecords (config : Configuration) : List String :=
  match config.aliases with
  | some (first :: rest) =>
      ("Aliases of '" ++ config.name ++ "' to generate built-in:")
        :: (first :: rest).map fun (name, command) => "    " ++ name ++ " -> " ++ command
  | _ => ["No aliases configured for '" ++ config.name ++ "'"]

def announcement (configs : List Configuration) : List String :=
  "Searching for IpcCommands in:" :: (allPackages configs).map ("    " ++ ·)
    ++ configs.flatMap aliasRecords

def foundText (count : Nat) : String :=
  "Found " ++ Text.natText count ++ " IpcCommands; generating stubs..."

def sayAll (texts : List String) : Run Unit := texts.forM (Run.say .info)

def discover (plan : Plan) : Run (List Command) := do
  match Configuration.check plan.configurations with
  | .error error => throw error
  | .ok () =>
      sayAll (announcement plan.configurations)
      let commands ←
        Discovery.discover plan.classpath (allPackages plan.configurations) plan.capability
      Run.say .info (foundText commands.length)
      return commands

/-! ### Generation -/

def clockError (fault : MomentFault) : Error :=
  match fault with
  | .beyondClock => .raised "OverflowError" fault.message
  | .fieldTooWide => .raised "OSError" fault.message
  | _ => .raised "ValueError" fault.message

def moment (plan : Plan) : Run Moment :=
  match Moment.ofPinned plan.clock with
  | .ok moment => return moment
  | .error fault => throw (clockError fault)

def startText (config : Configuration) : String :=
  "Starting generation of " ++ config.name ++ " (" ++ config.scheme ++ ")"

-- The time that was taken is not measured, and a mark stands for it.
def finishText (config : Configuration) : String :=
  "Generation of " ++ config.name ++ " (" ++ config.scheme ++ ") finished in # seconds"

def makeTarget (config : Configuration) (target : Path) : Run Unit := do
  if target.hasNul then Run.raise "ValueError" Generator.nulText
  else
    let session ← get
    let (result, disk) := session.world.disk.ensureFolders session.directory target
    Run.setDisk disk
    match result with
    | .ok () => return ()
    | .error (errno, path) =>
        Run.fail (.output
          (.directoryNotCreated target.toString (errno.message path.toString)) (some config.scheme))

def renderEntry (generator : Generator) : Run (List Path) := fun session =>
  let (result, stage) := (generator.render Engine.entryTemplate .null).run { session }
  match result with
  | .ok _ => (.ok stage.files, stage.session)
  | .error trouble => (.error trouble.error, stage.session)

-- Runs one configuration on its share of the commands. Its templates are looked for before its target is
-- made.
def generate (plan : Plan) (commands : List Command) (moment : Moment) (config : Configuration) :
    Run Product := do
  match Forest.ofCommands (Command.filter config.packages commands) with
  | .error fault => Run.fail (.naming fault)
  | .ok forest =>
      let target := config.targetBelow plan.output
      Run.say .info (startText config)
      let _ ← plan.engine.template config.scheme Engine.entryTemplate
      makeTarget config target
      let scene : Template.Scene := { configuration := config, forest, target, moment }
      let files ← renderEntry { engine := plan.engine, scene }
      Run.say .info (finishText config)
      return { name := config.name, target, files }

structure Tally where
  products : List Product := []
  failures : List (String × Failure) := []

def failureText (failure : Failure) : String := "Generation failed: " ++ failure.message

def advance (plan : Plan) (commands : List Command) (moment : Moment) (tally : Tally)
    (config : Configuration) : Run Tally := do
  match ← Run.outcome (plan.generate commands moment config) with
  | .ok product => return { tally with products := tally.products ++ [product] }
  | .error (.mishap mishap) => throw (.mishap mishap)
  | .error (.failure failure) => do
      let failure := failure.inConfig config.name
      if plan.failFast || !failure.isCollectable then throw (.failure failure)
      else
        Run.say .error (failureText failure)
        return { tally with failures := tally.failures ++ [(config.name, failure)] }

def run (plan : Plan) : Run (List Product) := do
  let commands ← plan.discover
  let moment ← plan.moment
  let tally ← plan.configurations.foldlM (plan.advance commands moment) {}
  if tally.failures.isEmpty then return tally.products
  else Run.fail (.generation tally.failures)

end Plan

end StubForge
