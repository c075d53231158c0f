import StubForge.Literal

set_option autoImplicit false

/-!
What can go wrong in a run: the program's own failures, each with its cause, and errors that come
from outside it. A failure may carry the name of the configuration it belongs to, and its message
then names that configuration.
-/

namespace StubForge

structure Detail where
  location : List Json
  kind : String
  deriving BEq, Repr

inductive ConfigurationFault where
  | noGenerators
  | noName
  | duplicateName (name : String)
  | noScheme (name : String)
  | noPackages (name : String)
  | unknownEncoding (encoding name : String)
  | noSuchName (name : String)
  | settingsMissing (path : String)
  | settingsUnparsable
  | settingsNotMapping
  | settingsInvalid (details : List Detail)
  | other (text : String)
  deriving Repr

inductive ClasspathFault where
  | noRoots
  | noneReadable (roots : List String)
  | missingRoot (root : String)
  | unreadableArchive (root cause : String)
  | notDotted (path : String)
  | unresolved (path cause : String)
  | brokenModule (module cause : String)
  | notAClass (value : String)
  | other (text : String)
  deriving Repr, DecidableEq

inductive NamespaceFault where
  | malformed (fullName : String)
  | withoutPackage (fullName : String)
  | other (text : String)
  deriving Repr, DecidableEq

inductive TemplateFault where
  | notFound
  | badSyntax (line : Nat)
  | notMerged (cause : String)
  | notResolved (text : String)
  | notRendered (text : String)
  | other (text : String)
  deriving Repr, DecidableEq

inductive OutputFault where
  | outside (file target : String)
  | directoryNotCreated (directory cause : String)
  | fileNotCreated (file cause : String)
  | other (text : String)
  deriving Repr, DecidableEq

def ConfigurationFault.message : ConfigurationFault → String
  | .noGenerators => "no generators configured"
  | .noName => "no name configured for configuration"
  | .duplicateName name => "configuration name '" ++ name ++ "' is used more than once"
  | .noScheme name => "no scheme configured for configuration '" ++ name ++ "'"
  | .noPackages name => "no packages configured for configuration '" ++ name ++ "'"
  | .unknownEncoding encoding name =>
      "unknown encoding '" ++ encoding ++ "' for configuration '" ++ name ++ "'"
  | .noSuchName name => "no configuration named '" ++ name ++ "'"
  | .settingsMissing path => "settings file not found: " ++ path
  | .settingsUnparsable => "cannot parse settings"
  | .settingsNotMapping => "settings must be a mapping"
  | .settingsInvalid _ => "invalid settings"
  | .other text => text

def ClasspathFault.message : ClasspathFault → String
  | .noRoots => "no classpath roots given"
  | .noneReadable roots => "none of the classpath roots could be read: " ++ Text.join ", " roots
  | .missingRoot root => "classpath root does not exist: " ++ root
  | .unreadableArchive root cause => "failed to read archive " ++ root ++ ": " ++ cause
  | .notDotted path => "not a dotted path: " ++ path
  | .unresolved path cause => "cannot resolve " ++ path ++ ": " ++ cause
  | .brokenModule module cause => "cannot load module " ++ module ++ ": " ++ cause
  | .notAClass value => "capability " ++ value ++ " is not a class"
  | .other text => text

def NamespaceFault.message : NamespaceFault → String
  | .malformed fullName => "invalid class definition found: " ++ fullName
  | .withoutPackage fullName => "found an IpcCommand without a package: " ++ fullName
  | .other text => text

def TemplateFault.message : TemplateFault → String
  | .notFound => "cannot find template"
  | .badSyntax line => "invalid template syntax at line " ++ Text.natText line
  | .notMerged cause => "cannot merge template: " ++ cause
  | .notResolved text => text
  | .notRendered text => text
  | .other text => text

-- The template exists and compiles, so only rendering it went wrong.
def TemplateFault.isRendering : TemplateFault → Bool
  | .notMerged _ => true
  | .notRendered _ => true
  | _ => false

def OutputFault.message : OutputFault → String
  | .outside file target => "refusing to generate " ++ file ++ " outside of " ++ target
  | .directoryNotCreated directory cause =>
      "cannot create stub directory " ++ directory ++ ": " ++ cause
  | .fileNotCreated file cause => "cannot create file " ++ file ++ ": " ++ cause
  | .other text => text

mutual
inductive Fault where
  | general (text : String)
  | configuration (fault : ConfigurationFault)
  | classpath (fault : ClasspathFault)
  | naming (fault : NamespaceFault)
  | template (fault : TemplateFault) (scheme template : String)
  | output (fault : OutputFault) (scheme : Option String)
  | generation (failures : List (String × Failure))
inductive Failure where
  | of (config : Option String) (fault : Fault)
end

namespace Failure

def config : Failure → Option String
  | .of config _ => config

def fault : Failure → Fault
  | .of _ fault => fault

def inConfig (name : String) (failure : Failure) : Failure := .of (some name) failure.fault

-- Failures that a run may collect and go on after.
def isCollectable (failure : Failure) : Bool :=
  match failure.fault with
  | .template .. => true
  | .output .. => true
  | _ => false

end Failure

mutual
def Fault.message : Fault → String
  | .general text => text
  | .configuration fault => fault.message
  | .classpath fault => fault.message
  | .naming fault => fault.message
  | .template fault scheme template =>
      fault.message ++ " (scheme '" ++ scheme ++ "', template '" ++ template ++ "')"
  | .output fault none => fault.message
  | .output fault (some scheme) => fault.message ++ " (scheme '" ++ scheme ++ "')"
  | .generation failures =>
      Text.natText failures.length ++ " configuration(s) failed: "
        ++ Text.join "; " (Failure.summaries failures)
termination_by structural fault => fault
def Failure.message : Failure → String
  | .of none fault => fault.message
  | .of (some name) fault => "configuration '" ++ name ++ "': " ++ fault.message
termination_by structural failure => failure
def Failure.summaries : List (String × Failure) → List String
  | [] => []
  | (name, failure) :: rest =>
      (if failure.config = some name then failure.message else name ++ ": " ++ failure.message)
        :: Failure.summaries rest
termination_by structural failures => failures
end

-- An error of another kind than the program's own failures.
structure Mishap where
  kind : String
  message : String
  details : List Detail := []
  deriving Repr

inductive Error where
  | failure (failure : Failure)
  | mishap (mishap : Mishap)

instance : Inhabited Failure := ⟨.of none (.general "")⟩

instance : Inhabited Error := ⟨.failure default⟩

namespace Error

def ofFault (fault : Fault) : Error := .failure (.of none fault)

def configuration (fault : ConfigurationFault) : Error := ofFault (.configuration fault)

def classpath (fault : ClasspathFault) : Error := ofFault (.classpath fault)

def raised (kind message : String) : Error := .mishap { kind, message }

def message : Error → String
  | .failure own => own.message
  | .mishap foreign => foreign.message

end Error

end StubForge
