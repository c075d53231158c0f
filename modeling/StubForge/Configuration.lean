import StubForge.Path

set_option autoImplicit false

/-!
A named configuration: which commands to generate stubs for, with which scheme, and where.
-/

namespace StubForge

structure Configuration where
  name : String := ""
  scheme : String := ""
  packages : List String := []
  aliases : Option (List (String × String)) := none
  target : Option Path := none
  legalText : Option String := none
  encoding : Option String := none
  deriving Repr

namespace Configuration

def defaultEncoding : String := "utf-8"

-- The encoding of generated files; an empty name stands for the default.
def fileEncoding (config : Configuration) : String :=
  match config.encoding with
  | some "" => defaultEncoding
  | some name => name
  | none => defaultEncoding

-- Where the files of the configuration go below a root, unless it names a place itself.
def targetBelow (config : Configuration) (root : Path) : Path :=
  config.target.getD (root.child config.name)

end Configuration

end StubForge
