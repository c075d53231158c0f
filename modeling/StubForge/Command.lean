import StubForge.Name
import StubForge.Tag

set_option autoImplicit false

/-!
Commands: classes that a library offers for remote calls, each under a dotted name. Two commands are
the same if they have the same name.
-/

namespace StubForge

structure Command where
  fullName : String
  -- The dotted name of the class, with the module that defines it.
  definedAt : String := ""
  metadata : Metadata := {}

namespace Command

def name (command : Command) : String := Name.last command.fullName

-- The dotted name of the namespace the command lies in, empty without one.
def home (command : Command) : String := Name.parent command.fullName

def shown (command : Command) : String :=
  "CommandDescriptor(full_name=" ++ Text.quoted command.fullName ++ ", name="
    ++ Text.quoted command.name ++ ")"

def filter (packages : List String) (commands : List Command) : List Command :=
  commands.filter fun command => Name.inPackages command.fullName packages

def addNew (commands : List Command) (command : Command) : List Command :=
  if commands.any (·.fullName == command.fullName) then commands else commands ++ [command]

end Command

end StubForge
