import StubForge.CommandLine.Invocation
import StubForge.Namespace.Listing
import StubForge.Plan

set_option autoImplicit false

/-!
The program: what it does for a command line. Its own failures are recorded and end it with the exit
code 1; wrong usage ends it with 2; other errors leave it as they are.
-/

namespace StubForge

open CommandLine

inductive Outcome where
  | helped
  | misused (program : String) (fault : UsageFault)
  | finished (level : Level) (code : Nat) (lines : List String)
  | raised (level : Option Level) (error : Error)

namespace Program

-- What the settings and the command line together plan. The roots on the command line come last, its template
-- folders first.
def planOf (invocation : Invocation) (settings : Settings) (configs : List Configuration)
    (clock : String) : Plan :=
  let capability := match invocation.capability with
    | some "" => settings.capability
    | some path => path
    | none => settings.capability
  { configurations := configs
    classpath := settings.classpath ++ invocation.classpath
    capability := .named capability
    clock }

def productText (product : Product) : String :=
  product.name ++ ": " ++ Text.natText product.files.length ++ " file(s) in "
    ++ product.target.toString

def generate (plan : Plan) (settings : Settings) (output : Option Path) (folders : List Path)
    (keepGoing : Bool) : Run (List String) := do
  let products ← Plan.run { plan with
    output := output.getD settings.output
    engine := { folders := folders ++ settings.templateFolders }
    failFast := settings.failFast && !keepGoing }
  Plan.sayAll (products.map productText)
  return []

def listing (commands : List Command) (config : Configuration) : Run (List String) := do
  match Forest.ofCommands (Command.filter config.packages commands) with
  | .error fault => Run.fail (.naming fault)
  | .ok forest => return (config.name ++ " (" ++ config.scheme ++ ")") :: forest.lines

def inspect (plan : Plan) (name : Option String) : Run (List String) := do
  if plan.configurations.isEmpty then
    Run.fail (.configuration (.noSuchName (name.getD "None")))
  else
    let commands ← plan.discover
    return (← plan.configurations.mapM (listing commands)).flatten

def named (name : Option String) (configs : List Configuration) : List Configuration :=
  match name with
  | none => configs
  | some name => configs.filter fun config => config.name == name

def act (invocation : Invocation) (clock : String) : Run (List String) := do
  let settings ← Settings.load invocation.config
  match invocation.action with
  | .generate output folders keepGoing =>
      generate (planOf invocation settings settings.generators clock) settings output folders keepGoing
  | .inspect name =>
      inspect (planOf invocation settings (named name settings.generators) clock) name

def levelText (name : String) : String := "Level " ++ "'" ++ name ++ "' does not exist"

def run (arguments : List String) (clock : String) : StateM Session Outcome := do
  match Invocation.read arguments with
  | .error .help => return .helped
  | .error (.misuse program fault) => return .misused program fault
  | .ok invocation =>
      let name := invocation.logLevel.map Char.toUpper
      match Level.ofName? name with
      | none => return .raised none (.raised "ValueError" (levelText name))
      | some level =>
          match ← ExceptT.run (act invocation clock) with
          | Except.ok lines => return .finished level 0 lines
          | Except.error (.mishap mishap) => return .raised (some level) (.mishap mishap)
          | Except.error (.failure failure) => do
              let _ ← ExceptT.run (Run.say .error failure.message)
              return .finished level 1 []

end Program

end StubForge
