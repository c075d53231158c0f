import StubForge.Library.Import
import StubForge.Tag.Same

set_option autoImplicit false

/-!
Reading the metadata of commands from the tags of their classes.
-/

namespace StubForge

namespace World

-- The name by which a class can be marked as deprecated without a tag.
def deprecationMark : String := "__deprecated__"

-- The metadata that a class states itself; what its ancestors state does not count.
def metadata (world : World) (id : ClassId) : Metadata :=
  match world.class? id with
  | none => {}
  | some record => Metadata.ofTags (lookup deprecationMark record.members).isSome record.tags

def metadataOfValue (world : World) : Object → Except Mishap Metadata
  | .cls id => .ok (world.metadata id)
  | .module name =>
      let mark := (world.module? name).bind fun record => lookup deprecationMark record.globals
      .ok (Metadata.ofTags mark.isSome [])
  | .constant value =>
      .error {
        kind := "AttributeError"
        message := Text.quoted (Literal.typeName value) ++ " object has no attribute '__dict__'" }
  | _ => .ok {}

-- Inspects what stands behind the attribute `command` of a class, or the class without one.
def inspect (world : World) (id : ClassId) : Except Mishap Metadata :=
  match world.attribute? id "command" with
  | some value => world.metadataOfValue value
  | none => .ok (world.metadata id)

def command (world : World) (fullName : String) (id : ClassId) : Command :=
  { fullName
    definedAt := ((world.class? id).map classPath).getD ""
    metadata := world.metadata id }

end World

end StubForge
