import StubForge.Datum
import StubForge.Namespace.Forest

set_option autoImplicit false

/-!
Listing a forest for people: every namespace with its commands, and then the namespaces below it,
indented one level deeper.
-/

namespace StubForge

def TagField.descriptionText? : TagField → Option String
  | .constant value =>
      if (Datum.ofJson value).isEmpty then none else some (Literal.plain value)
  | field => some (Tag.fieldShown field)

namespace Forest

def indentText (levels : Nat) : String := String.ofList (List.replicate (2 * levels) ' ')

def commandLine (command : Command) : String :=
  command.name ++ (if command.metadata.deprecated then " [deprecated]" else "")
    ++ ((command.metadata.description.descriptionText?.map (" - " ++ ·)).getD "")

def ownLines (forest : Forest) (indent node : Nat) : List String :=
  (indentText indent ++ forest.name node ++ "/")
    :: (forest.commands node).map fun command => indentText (indent + 1) ++ commandLine command

def linesFrom (forest : Forest) : Nat → Nat → Nat → List String
  | 0, indent, node => forest.ownLines indent node
  | levels + 1, indent, node =>
      forest.ownLines indent node
        ++ (forest.children node).flatMap (linesFrom forest levels (indent + 1))

-- The lines of all roots, which are indented once themselves.
def lines (forest : Forest) : List String := forest.roots.flatMap (forest.linesFrom forest.size 1)

end Forest

end StubForge
