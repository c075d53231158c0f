import StubForge.Json

set_option autoImplicit false

/-!
Constants as they are shown in messages and in rendered text: texts quoted, lists in brackets,
objects in braces with their members in order.
-/

namespace StubForge.Literal

def enclosed (opening closing : String) (items : List String) : String :=
  opening ++ Text.join ", " items ++ closing

-- A sequence in parentheses; a single item keeps a comma behind it.
def tupleText : List String → String
  | [item] => "(" ++ item ++ ",)"
  | items => enclosed "(" ")" items

mutual
def shown : Json → String
  | .null => "None"
  | .bool value => if value then "True" else "False"
  | .int value => Text.intText value
  | .float value => value.text
  | .string value => Text.quoted value
  | .array items => enclosed "[" "]" (shownItems items)
  | .object members => enclosed "\x7b" "\x7d" (shownMembers members)
termination_by structural value => value
def shownItems : List Json → List String
  | [] => []
  | item :: rest => shown item :: shownItems rest
termination_by structural items => items
def shownMembers : List (String × Json) → List String
  | [] => []
  | (key, value) :: rest => (Text.quoted key ++ ": " ++ shown value) :: shownMembers rest
termination_by structural members => members
end

def plain : Json → String
  | .string value => value
  | value => shown value

def argumentsText : List Json → String
  | [] => ""
  | [argument] => plain argument
  | arguments => tupleText (arguments.map shown)

def typeName : Json → String
  | .null => "NoneType"
  | .bool _ => "bool"
  | .int _ => "int"
  | .float _ => "float"
  | .string _ => "str"
  | .array _ => "list"
  | .object _ => "dict"

end StubForge.Literal
