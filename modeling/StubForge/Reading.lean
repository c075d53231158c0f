import StubForge.Datum
import StubForge.Encoding.Utf8
import StubForge.Failure

set_option autoImplicit false

/-!
Reading data as values of known types. A reading that fails says everything that is wrong: first the
fields of a record in their order, then the keys it does not know in the order of the document.
-/

namespace StubForge

abbrev Location := List Json

abbrev Reading (α : Type) := Except (List Detail) α

namespace Reading

variable {α β : Type}

def wrong (location : Location) (kind : String) : Reading α := .error [{ location, kind }]

def apply (function : Reading (α → β)) (argument : Reading α) : Reading β :=
  match function, argument with
  | .ok function, .ok argument => .ok (function argument)
  | .error first, .error second => .error (first ++ second)
  | .error first, .ok _ => .error first
  | .ok _, .error second => .error second

abbrev Reader (α : Type) := Location → Datum → Reading α

/-! ### Constants -/

def text : Reader String := fun location datum =>
  match datum with
  | .text value => .ok value
  | .bytes data =>
      match Utf8.decode data with
      | .ok chars => .ok (String.ofList chars)
      | .error _ => wrong location "string_unicode"
  | _ => wrong location "string_type"

def path : Reader Path := fun location datum =>
  match text location datum with
  | .ok value => .ok (Path.ofString value)
  | .error _ => wrong location "path_type"

def switchWords : List (Bool × List String) := [
  (true, ["true", "t", "yes", "y", "on", "1"]), (false, ["false", "f", "no", "n", "off", "0"])]

def switchWord? (text : String) : Option Bool :=
  (switchWords.find? fun entry => entry.2.contains (text.map Char.toLower)).map (·.1)

-- A switch is a truth value, a word for one, or one of the numbers 1 and 0.
def switch : Reader Bool := fun location datum =>
  let parsed := fun (value : Option Bool) =>
    match value with
    | some value => .ok value
    | none => wrong location "bool_parsing"
  match datum with
  | .bool value => .ok value
  | .int value => parsed (if value = 1 then some true else if value = 0 then some false else none)
  | .float value =>
      match value.toInt? with
      | some 1 => .ok true
      | some 0 => .ok false
      | _ => wrong location "bool_type"
  | .text value => parsed (switchWord? value)
  | .bytes _ =>
      match text location datum with
      | .ok value => parsed (switchWord? value)
      | .error _ => wrong location "bool_parsing"
  | _ => wrong location "bool_type"

def optional (read : Reader α) : Reader (Option α) := fun location datum =>
  match datum with
  | .null => .ok none
  | datum => (read location datum).map some

/-! ### Collections -/

def items (read : Reader α) (location : Location) : Nat → List Datum → Reading (List α)
  | _, [] => .ok []
  | index, item :: rest =>
      apply ((read (location ++ [.int index]) item).map List.cons)
        (items read location (index + 1) rest)

-- A list, or the members of a set; other data are wrong in the given way.
def listOf (read : Reader α) (kind : String) : Reader (List α) := fun location datum =>
  match datum with
  | .list found => items read location 0 found
  | .set found => items read location 0 found
  | _ => wrong location kind

def entries (location : Location) : List (Datum × Datum) → Reading (List (String × String))
  | [] => .ok []
  | (key, value) :: rest =>
      let place := location ++ [key.keyName]
      let entry := apply ((text (place ++ [.string "[key]"]) key).map Prod.mk) (text place value)
      apply (entry.map List.cons) (entries location rest)

def dictionary : Reader (List (String × String)) := fun location datum =>
  match datum with
  | .mapping found => entries location found
  | _ => wrong location "dict_type"

/-! ### Records -/

structure Fields where
  location : Location
  entries : List (Datum × Datum)

namespace Fields

def find? (record : Fields) (names : List String) : Option (String × Datum) :=
  names.findSome? fun name =>
    (record.entries.find? fun entry => match entry.1 with
      | .text key => key == name
      | _ => false).map fun entry => (name, entry.2)

-- A field that may be missing, and may go by any of some names.
def field (record : Fields) (names : List String) (fallback : α) (read : Reader α) : Reading α :=
  match record.find? names with
  | some (name, value) => read (record.location ++ [.string name]) value
  | none => .ok fallback

def leftOver (record : Fields) (fields : List (List String)) : List Detail :=
  let used := fields.filterMap fun names => (record.find? names).map (·.1)
  record.entries.filterMap fun (key, _) =>
    let location := record.location ++ [key.keyName]
    match key with
    | .text name => if used.contains name then none else some { location, kind := "extra_forbidden" }
    | _ => some { location, kind := "invalid_key" }

def complete (record : Fields) (fields : List (List String)) (value : Reading α) : Reading α :=
  match value, record.leftOver fields with
  | .ok value, [] => .ok value
  | .ok _, extra => .error extra
  | .error details, extra => .error (details ++ extra)

end Fields

def recordOf (read : Fields → Reading α) : Reader α := fun location datum =>
  match datum with
  | .mapping entries => read { location, entries }
  | _ => wrong location "model_type"

end Reading

end StubForge
