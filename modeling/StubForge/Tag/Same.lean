import StubForge.Tag

set_option autoImplicit false

/-!
When two tags are the same, and which tags cannot be members of a set.
-/

namespace StubForge

namespace Tag

-- Two constants that compare as equal: numbers by value, whatever their type.
def numberOf : Json → Option Real64
  | .bool b => some (Real64.ofInt (if b then 1 else 0))
  | .int n => some (Real64.ofInt n)
  | .float x => some x
  | _ => none

mutual
def sameConstant : Json → Json → Bool
  | .null, .null => true
  | .string a, .string b => a == b
  | .array a, .array b => sameConstants a b
  | .object a, .object b => a.length == b.length && sameMembers a b
  | .int a, .int b => a == b
  | a, b =>
      match numberOf a, numberOf b with
      | some x, some y => Real64.compare? x y == some .eq
      | _, _ => false
termination_by structural a => a
def sameConstants : List Json → List Json → Bool
  | [], [] => true
  | a :: as, b :: bs => sameConstant a b && sameConstants as bs
  | _, _ => false
termination_by structural as => as
def sameMembers : List (String × Json) → List (String × Json) → Bool
  | [], _ => true
  | (key, value) :: rest, other =>
      (match other.find? fun member => member.1 == key with
        | some (_, found) => sameConstant value found
        | none => false)
      && sameMembers rest other
termination_by structural members => members
end

mutual
def same : Tag → Tag → Bool
  | .of type serial fields, other =>
      match type.family with
      | .custom => serial == other.serial
      | _ => type.id == other.type.id && sameFields fields other.fields
termination_by structural tag => tag
def sameFields : List (String × TagField) → List (String × TagField) → Bool
  | [], [] => true
  | (_, a) :: as, (_, b) :: bs => sameField a b && sameFields as bs
  | _, _ => false
termination_by structural fields => fields
def sameField : TagField → TagField → Bool
  | .constant a, .constant b => sameConstant a b
  | .tag a, .tag b => same a b
  | .items a, .items b => sameTags a b
  | _, _ => false
termination_by structural field => field
def sameTags : List Tag → List Tag → Bool
  | [], [] => true
  | a :: as, b :: bs => same a b && sameTags as bs
  | _, _ => false
termination_by structural tags => tags
end

mutual
def unhashable : Tag → Option String
  | .of type _ fields => if type.family = .custom then none else unhashableFields fields
termination_by structural tag => tag
def unhashableFields : List (String × TagField) → Option String
  | [] => none
  | (_, value) :: rest => unhashableField value <|> unhashableFields rest
termination_by structural fields => fields
def unhashableField : TagField → Option String
  | .constant (.array _) => some "list"
  | .constant (.object _) => some "dict"
  | .constant _ => none
  | .tag tag => unhashable tag
  | .items tags => unhashableTags tags
termination_by structural field => field
def unhashableTags : List Tag → Option String
  | [] => none
  | tag :: rest => unhashable tag <|> unhashableTags rest
termination_by structural tags => tags
end

end Tag

end StubForge
