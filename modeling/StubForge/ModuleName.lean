import StubForge.Name
import StubForge.Path

set_option autoImplicit false

/-!
The dotted module name of a source file, from its path below a root.
-/

namespace StubForge

def sourceSuffix : List Char := ['.', 'p', 'y']

-- The segments of a module name from folders and the stem of a file; a package is named by its folder alone.
def moduleSegments (folders : List String) (stem : String) : List String :=
  if stem = "__init__" then folders else folders ++ [stem]

-- Entry points, files in cache folders and files whose path does not spell a dotted name of identifiers have
-- no module name.
def moduleName? (path : Path) : Option String :=
  match path.components.getLast?, path.parts with
  | some file, _ :: _ =>
      let (stem, suffix) := Path.splitSuffix file.toList
      let folders := path.components.dropLast
      let parts := moduleSegments folders (String.ofList stem)
      if suffix ≠ sourceSuffix then none
      else if folders.contains "__pycache__" then none
      else if stem = "__main__".toList then none
      else if parts.isEmpty || !parts.all Text.isIdentifier then none
      else some (Name.ofSegments parts)
  | _, _ => none

end StubForge
