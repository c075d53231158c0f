import StubForge.Failure

set_option autoImplicit false

/-!
Tags describe a command. A tag has a type; the bundled types are named by their family, and a type
declared by a library belongs to the family of the bundled type it extends, if it extends one.
-/

namespace StubForge

inductive TagFamily where
  | description
  | deprecated
  | param
  | thrown
  | returned
  | params
  | throws
  | returns
  -- What the groups have in common; its items may be any tags.
  | anyGroup
  | custom
  deriving DecidableEq, Repr

structure TagType where
  -- Two tags are of exactly the same type if their types have the same number.
  id : Nat
  name : String
  family : TagFamily
  -- The type is a bundled one, not an extension of it.
  bundled : Bool
  -- The declaration of the type itself says that it carries meta information.
  declaresMeta : Bool
  deriving DecidableEq, Repr

mutual
inductive TagField where
  | constant (value : Json)
  | tag (value : Tag)
  | items (values : List Tag)
inductive Tag where
  -- The serial number tells apart tags that compare by identity.
  | of (type : TagType) (serial : Nat) (fields : List (String × TagField))
end

namespace TagFamily

def itemFamily : TagFamily → Option TagFamily
  | params => some param
  | throws => some thrown
  | returns => some returned
  | anyGroup => some custom
  | _ => none

def name : TagFamily → String
  | description => "Description"
  | deprecated => "Deprecated"
  | param => "Param"
  | thrown => "Throw"
  | returned => "Return"
  | params => "Params"
  | throws => "Throws"
  | returns => "Returns"
  | anyGroup => "_Group"
  | custom => "Tag"

def fields : TagFamily → List (String × Option Json)
  | description => [("value", none)]
  | deprecated => [("reason", some (.string ""))]
  | param => [("name", none), ("description", some (.string "")), ("type", some (.string "")),
      ("optional", some (.bool false)), ("default", some (.string ""))]
  | thrown => [("name", none), ("description", some (.string ""))]
  | returned => [("name", none), ("description", some (.string ""))]
  | _ => []

end TagFamily

namespace Tag

def type : Tag → TagType
  | .of type _ _ => type

def serial : Tag → Nat
  | .of _ serial _ => serial

def fields : Tag → List (String × TagField)
  | .of _ _ fields => fields

def field? (tag : Tag) (name : String) : Option TagField :=
  (tag.fields.find? fun field => field.1 == name).map (·.2)

def items (tag : Tag) : List Tag :=
  match tag.field? "value" with
  | some (.items values) => values
  | _ => []

def isExactly (family : TagFamily) (tag : Tag) : Bool := tag.type.bundled && tag.type.family == family

mutual
def shown : Tag → String
  | .of type serial fields =>
      match type.family with
      | .custom => "<" ++ type.name ++ " object " ++ Text.natText serial ++ ">"
      | .params => type.name ++ groupText fields
      | .throws => type.name ++ groupText fields
      | .returns => type.name ++ groupText fields
      | .anyGroup => type.name ++ groupText fields
      | _ => type.name ++ Literal.enclosed "(" ")" (fieldTexts fields)
termination_by structural tag => tag
def groupText : List (String × TagField) → String
  | [] => "()"
  | (_, value) :: _ => fieldShown value
termination_by structural fields => fields
def fieldTexts : List (String × TagField) → List String
  | [] => []
  | (name, value) :: rest => (name ++ "=" ++ fieldShown value) :: fieldTexts rest
termination_by structural fields => fields
def fieldShown : TagField → String
  | .constant value => Literal.shown value
  | .tag value => shown value
  | .items values => Literal.tupleText (shownAll values)
termination_by structural value => value
def shownAll : List Tag → List String
  | [] => []
  | tag :: rest => shown tag :: shownAll rest
termination_by structural tags => tags
end

end Tag

structure Metadata where
  description : TagField := .constant (.string "")
  deprecated : Bool := false
  params : List Tag := []
  throws : List Tag := []
  returns : List Tag := []
  hasMetaInformations : Bool := false
  tags : List Tag := []

namespace Metadata

def tagOf (family : TagFamily) (tags : List Tag) : Option Tag := tags.find? (Tag.isExactly family)

-- The single tag, if there is one, and then the items of the group.
def union (single group : TagFamily) (tags : List Tag) : List Tag :=
  (tagOf single tags).toList ++ ((tagOf group tags).map Tag.items).getD []

-- The metadata of tags in declaration order. A class can also be marked as deprecated without a tag.
def ofTags (markedDeprecated : Bool) (tags : List Tag) : Metadata :=
  { description := ((tagOf .description tags).bind (·.field? "value")).getD (.constant (.string ""))
    deprecated := (tagOf .deprecated tags).isSome || markedDeprecated
    params := union .param .params tags
    throws := union .thrown .throws tags
    returns := union .returned .returns tags
    hasMetaInformations := tags.any fun tag => tag.type.declaresMeta
    tags }

end Metadata

end StubForge
