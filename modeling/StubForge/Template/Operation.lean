import StubForge.Signature
import StubForge.Template.Value
import StubForge.Text.Replace

set_option autoImplicit false

/-!
Operators, filters, tests and methods of template values. They look at values only; what renders
text or writes files is elsewhere.
-/

namespace StubForge.Template

namespace Value

/-! ### Arithmetic -/

def symbol : BinaryOp → String
  | .add => "+"
  | .sub => "-"
  | .mul => "*"
  | .div => "/"
  | .floorDiv => "//"
  | .modulo => "%"
  | .power => "** or pow()"

def unsupported (op : BinaryOp) (a b : Value) : Trouble :=
  .type ("unsupported operand type(s) for " ++ symbol op ++ ": " ++ Text.quoted a.typeName ++ " and "
    ++ Text.quoted b.typeName)

def divisionByZero (text : String) : Trouble :=
  .mishap { kind := "ZeroDivisionError", message := text }

def cannotJoin (type : String) (other : Value) : Trouble :=
  .type ("can only concatenate " ++ type ++ " (not \"" ++ other.typeName ++ "\") to " ++ type)

def repeated {α : Type} (count : Int) (items : List α) : List α :=
  (List.replicate count.toNat items).flatten

def floatResult (op : BinaryOp) (x y : Real64) : Except Trouble Value :=
  match op with
  | .add => .ok (.float (x.add y))
  | .sub => .ok (.float (x.sub y))
  | .mul => .ok (.float (x.mul y))
  | .div => if y.isZero then .error (divisionByZero "float division by zero") else .ok (.float (x.div y))
  | _ => .error (unsupported op (.float x) (.float y))

def intResult (op : BinaryOp) (m n : Int) : Except Trouble Value :=
  match op with
  | .add => .ok (.int (m + n))
  | .sub => .ok (.int (m - n))
  | .mul => .ok (.int (m * n))
  | .div =>
      if n = 0 then .error (divisionByZero "division by zero")
      else .ok (.float ((Real64.ofInt m).div (Real64.ofInt n)))
  | .floorDiv =>
      if n = 0 then .error (divisionByZero "integer division or modulo by zero")
      else .ok (.int (Int.fdiv m n))
  | .modulo =>
      if n = 0 then .error (divisionByZero "integer division or modulo by zero")
      else .ok (.int (Int.fmod m n))
  | .power => if 0 ≤ n then .ok (.int (Int.pow m n.toNat)) else .error (unsupported .power (.int m) (.int n))

def binary (op : BinaryOp) (a b : Value) : Except Trouble Value :=
  match a, b with
  | undefined complaint, _ => .error (.complaint complaint)
  | _, undefined complaint => .error (.complaint complaint)
  | a, b =>
      match integer? a, integer? b with
      | some m, some n => intResult op m n
      | m, n =>
          match number? a, number? b with
          | some x, some y => floatResult op x y
          | _, _ =>
              match op, a, b, m, n with
              | .add, text x, text y, _, _ => .ok (.text (x ++ y))
              | .add, text _, other, _, _ => .error (cannotJoin "str" other)
              | .add, list x, list y, _, _ => .ok (.list (x ++ y))
              | .add, list _, other, _, _ => .error (cannotJoin "list" other)
              | .add, tuple x, tuple y, _, _ => .ok (.tuple (x ++ y))
              | .add, tuple _, other, _, _ => .error (cannotJoin "tuple" other)
              | .mul, text x, _, _, some n => .ok (.text (String.ofList (repeated n x.toList)))
              | .mul, _, text y, some m, _ => .ok (.text (String.ofList (repeated m y.toList)))
              | .mul, list x, _, _, some n => .ok (.list (repeated n x))
              | .mul, _, list y, some m, _ => .ok (.list (repeated m y))
              | .div, path x, text y, _, _ => .ok (.path ((Path.ofString x).child y).toString)
              | .div, text x, path y, _, _ => .ok (.path ((Path.ofString x).child y).toString)
              | .div, path x, path y, _, _ => .ok (.path ((Path.ofString x).child y).toString)
              | op, a, b, _, _ => .error (unsupported op a b)

def signed (sign : String) (negative : Bool) (value : Value) : Except Trouble Value :=
  match value with
  | undefined complaint => .error (.complaint complaint)
  | float x => .ok (.float (if negative then x.neg else x))
  | value =>
      match integer? value with
      | some n => .ok (.int (if negative then -n else n))
      | none => .error (.type ("bad operand type for unary " ++ sign ++ ": " ++ Text.quoted value.typeName))

/-! ### Relations -/

mutual
def order? : Value → Value → Option Ordering
  | text a, text b => some (compare a b)
  | list a, list b => orderItems? a b
  | tuple a, tuple b => orderItems? a b
  | a, b =>
      match number? a, number? b with
      | some x, some y => Real64.compare? x y
      | _, _ => none
termination_by structural a => a
def orderItems? : List Value → List Value → Option Ordering
  | [], [] => some .eq
  | [], _ :: _ => some .lt
  | _ :: _, [] => some .gt
  | a :: as, b :: bs => if same a b then orderItems? as bs else order? a b
termination_by structural as => as
end

def ordered (symbol : String) (a b : Value) (accepts : Ordering → Bool) : Except Trouble Bool :=
  match order? a b with
  | some found => .ok (accepts found)
  | none =>
      .error (.type (Text.quoted symbol ++ " not supported between instances of " ++ Text.quoted a.typeName
        ++ " and " ++ Text.quoted b.typeName))

def containsItem (value : Value) (items : List Value) : Except Trouble Bool :=
  match value, items with
  | _, [] => .ok false
  | undefined complaint, _ => .error (.complaint complaint)
  | value, items => .ok (items.any (same value))

-- The first value is one of the second one's items, or a part of it for texts.
def isMember (scene : Scene) (value container : Value) : Except Trouble Bool :=
  match container, value with
  | undefined complaint, _ => .error (.complaint complaint)
  | text whole, text part =>
      .ok (part = "" || (Text.breakAt? part.toList whole.toList).isSome)
  | text _, value =>
      .error (.type ("'in <string>' requires string as left operand, not " ++ value.typeName))
  | dictionary _, undefined complaint => .error (.complaint complaint)
  | dictionary entries, value => .ok (lookup value entries).isSome
  | container, value =>
      match iterate scene container with
      | .ok items => containsItem value items
      | .error _ =>
          .error (.type ("argument of type " ++ Text.quoted container.typeName ++ " is not iterable"))

def relate (scene : Scene) (relation : Relation) (a b : Value) : Except Trouble Bool :=
  match relation with
  | .member => isMember scene a b
  | .notMember => (isMember scene a b).map not
  | relation =>
      match a, b with
      | undefined complaint, _ => .error (.complaint complaint)
      | _, undefined complaint => .error (.complaint complaint)
      | a, b =>
          match relation with
          | .equal => .ok (same a b)
          | .unequal => .ok (!same a b)
          | .less => ordered "<" a b (· == .lt)
          | .lessEqual => ordered "<=" a b (· != .gt)
          | .greater => ordered ">" a b (· == .gt)
          | _ => ordered ">=" a b (· != .lt)

/-! ### Filters -/

def bound (callee : String) (parameters : List (String × Bool)) (args : List Value)
    (named : List (String × Value)) : Except Trouble (List (Option Value)) :=
  match (Signature.mk callee parameters).bind args named with
  | .ok found => .ok (found.map (·.2))
  | .error fault => .error (.type fault.message)

def joinTexts (scene : Scene) (separator : String) (items : List Value) : Except Trouble Value := do
  let texts ← items.mapM (plain scene)
  return .text (Text.join separator texts)

def asText (chars : List Char) : Value := .text (String.ofList chars)

def upperText (s : String) : Value := asText (s.toList.map Char.toUpper)
def lowerText (s : String) : Value := asText (s.toList.map Char.toLower)

def emptyComplaint (place : String) : Value :=
  .undefined ("No " ++ place ++ " item, sequence was empty.")

def applyFilter (scene : Scene) (filter : String) (value : Value) (args : List Value)
    (named : List (String × Value)) : Except Trouble Value := do
  match filter with
  | "tojson" => return .text (← toJson value).text
  | "replace" =>
      let found ← bound "do_replace" [("old", false), ("new", false), ("count", true)] args named
      match found with
      | [some old, some new, count] =>
          let s ← plain scene value
          let old ← plain scene old
          let new ← plain scene new
          let limit := (count.bind integer?).bind fun n => if n < 0 then none else some n.toNat
          return asText (Text.replaceChars old.toList new.toList limit s.toList)
      | _ => return value
  | "join" =>
      let found ← bound "do_join" [("d", true), ("attribute", true)] args named
      let separator ← plain scene ((found.head?.bind id).getD (.text ""))
      joinTexts scene separator (← iterate scene value)
  | "length" => return .int (← lengthOf scene value)
  | "count" => return .int (← lengthOf scene value)
  | "default" => defaulted value args named
  | "d" => defaulted value args named
  | "first" => return ((← iterate scene value).head?).getD (emptyComplaint "first")
  | "last" => return ((← iterate scene value).getLast?).getD (emptyComplaint "last")
  | "string" => return .text (← plain scene value)
  | "list" => return .list (← iterate scene value)
  | "trim" => return asText (Text.trimChars Text.isBlank (← plain scene value).toList)
  | "upper" => return upperText (← plain scene value)
  | "lower" => return lowerText (← plain scene value)
  | other => throw (.complaint ("No filter named " ++ Text.quoted other ++ " found."))
where
  defaulted (value : Value) (args : List Value) (named : List (String × Value)) : Except Trouble Value := do
    let found ← bound "do_default" [("default_value", true), ("boolean", true)] args named
    let fallback := (found.head?.bind id).getD (.text "")
    let boolean ← isTrue scene ((found.getLast?.bind id).getD (.bool false))
    match value with
    | undefined _ => return fallback
    | value => if boolean && !(← isTrue scene value) then return fallback else return value

def applyTest (scene : Scene) (test : String) (value : Value) (args : List Value) :
    Except Trouble Bool :=
  let integers := fun (accepts : Int → Bool) => (integer? value).map accepts
  match test, args with
  | "defined", _ => .ok (match value with | undefined _ => false | _ => true)
  | "undefined", _ => .ok (match value with | undefined _ => true | _ => false)
  | "none", _ => .ok (match value with | null => true | _ => false)
  | "boolean", _ => .ok (match value with | bool _ => true | _ => false)
  | "true", _ => .ok (match value with | bool b => b | _ => false)
  | "false", _ => .ok (match value with | bool b => !b | _ => false)
  | "string", _ => .ok (match value with | text _ => true | _ => false)
  | "number", _ => .ok (number? value).isSome
  | "integer", _ => .ok (match value with | int _ => true | _ => false)
  | "float", _ => .ok (match value with | float _ => true | _ => false)
  | "mapping", _ => .ok (match value with | dictionary _ => true | _ => false)
  | "iterable", _ => (match value with
      | undefined complaint => .error (.complaint complaint)
      | value => .ok (match iterate scene value with | .ok _ => true | .error _ => false))
  | "sequence", _ => .ok (match value with
      | text _ => true | list _ => true | tuple _ => true | dictionary _ => true | _ => false)
  | "callable", _ => .ok (match value with | .fragment .. => true | method _ _ => true | _ => false)
  | "odd", _ => .ok ((integers fun n => Int.fmod n 2 == 1).getD false)
  | "even", _ => .ok ((integers fun n => Int.fmod n 2 == 0).getD false)
  | "in", [container] => isMember scene value container
  | "sameas", [other] => .ok (same value other)
  | name, [other] =>
      if ["eq", "==", "equalto"].contains name then relate scene .equal value other
      else if ["ne", "!="].contains name then relate scene .unequal value other
      else if ["lt", "<", "lessthan"].contains name then relate scene .less value other
      else if ["le", "<="].contains name then relate scene .lessEqual value other
      else if ["gt", ">", "greaterthan"].contains name then relate scene .greater value other
      else if ["ge", ">="].contains name then relate scene .greaterEqual value other
      else .error (.complaint ("No test named " ++ Text.quoted name ++ " found."))
  | name, _ => .error (.complaint ("No test named " ++ Text.quoted name ++ " found."))

/-! ### Methods -/

def needText (name : String) : Value → Except Trouble String
  | undefined complaint => .error (.complaint complaint)
  | text value => .ok value
  | value => .error (.type (name ++ " must be str, not " ++ value.typeName))

def trimmed (s : String) (args : List Value) (trim : (Char → Bool) → List Char → List Char) :
    Except Trouble Value :=
  match args with
  | text set :: _ => .ok (asText (trim (fun c => set.toList.contains c) s.toList))
  | _ => .ok (asText (trim Text.isBlank s.toList))

def textMethod (scene : Scene) (s name : String) (args : List Value) : Except Trouble Value := do
  match name, args with
  | "splitlines", _ => return .list ((Text.splitLines s).map .text)
  | "strip", args => trimmed s args Text.trimChars
  | "lstrip", args => trimmed s args fun blank cs => cs.dropWhile blank
  | "rstrip", args => trimmed s args fun blank cs => (cs.reverse.dropWhile blank).reverse
  | "upper", _ => return upperText s
  | "lower", _ => return lowerText s
  | "split", [] => return .list ((Text.words s.toList).map asText)
  | "split", null :: _ => return .list ((Text.words s.toList).map asText)
  | "split", separator :: _ =>
      let separator ← needText "must be str or None" separator
      if separator = "" then throw (.mishap { kind := "ValueError", message := "empty separator" })
      else return .list ((Text.splitParts separator.toList (s.length + 1) s.toList).map asText)
  | "replace", [old, new] =>
      let old ← needText "replace() argument 1" old
      let new ← needText "replace() argument 2" new
      return .text (Text.replace old new s)
  | "startswith", [lead] =>
      return .bool (Text.startsWithChars (← needText "startswith first arg" lead).toList s.toList)
  | "endswith", [tail] =>
      return .bool ((← needText "endswith first arg" tail).toList.isSuffixOf s.toList)
  | "join", [items] => do
      let parts ← (← iterate scene items).mapM (needText "sequence item")
      return .text (Text.join s parts)
  | "count", [part] =>
      let part ← needText "must be str" part
      if part = "" then return .int (s.length + 1)
      else return .int ((Text.splitParts part.toList (s.length + 1) s.toList).length - 1 : Nat)
  | "find", [part] =>
      let part ← needText "must be str" part
      if part = "" then return .int 0
      else
        match Text.breakAt? part.toList s.toList with
        | some (before, _) => return .int before.length
        | none => return .int (-1)
  | name, args =>
      throw (.type ("str." ++ name ++ "() does not take " ++ Text.natText args.length ++ " arguments"))

def pairs (entries : List (Value × Value)) : List Value :=
  entries.map fun (key, value) => .tuple [key, value]

def callMethod (scene : Scene) (receiver : Value) (name : String) (args : List Value)
    (named : List (String × Value)) : Except Trouble Value := do
  match receiver, name, args with
  | text s, name, args => textMethod scene s name args
  | dictionary entries, "items", [] => return .stream "dict_items" (pairs entries)
  | dictionary entries, "keys", [] => return .stream "dict_keys" (entries.map (·.1))
  | dictionary entries, "values", [] => return .stream "dict_values" (entries.map (·.2))
  | dictionary entries, "get", [key] => return (lookup key entries).getD .null
  | dictionary entries, "get", [key, fallback] => return (lookup key entries).getD fallback
  | dictionary _, name, args =>
      throw (.type ("dict." ++ name ++ "() does not take " ++ Text.natText args.length ++ " arguments"))
  | node index, "walk", args =>
      let _ ← bound "NamespaceNode.walk" [] args named
      return .stream "generator" ((scene.forest.walk index).map .node)
  | forest, "nodes", args =>
      let _ ← bound "NamespaceTree.nodes" [] args named
      return .stream "generator" (scene.forest.nodes.map .node)
  | forest, "find", args =>
      match ← bound "NamespaceTree.find" [("full_name", false)] args named with
      | [some (text fullName)] => return ((scene.forest.find? fullName).map Value.node).getD .null
      | [some (undefined complaint)] =>
          if scene.forest.size = 0 then return .null else throw (.complaint complaint)
      | _ => return .null
  | null, "range", args =>
      match args.map integer? with
      | [some stop] => return .list ((List.range stop.toNat).map fun (n : Nat) => .int n)
      | [some start, some stop] =>
          return .list ((List.range (stop - start).toNat).map fun (n : Nat) => .int (start + n))
      | _ => throw (.type "range expected integer arguments")
  | receiver, _, _ => throw (.type (Text.quoted receiver.typeName ++ " object is not callable"))

/-! ### Binding -/

def tooFew (expected found : Nat) : Trouble :=
  .mishap {
    kind := "ValueError"
    message := "not enough values to unpack (expected " ++ Text.natText expected ++ ", got "
      ++ Text.natText found ++ ")" }

def tooMany (expected : Nat) : Trouble :=
  .mishap {
    kind := "ValueError"
    message := "too many values to unpack (expected " ++ Text.natText expected ++ ")" }

def parts (scene : Scene) (value : Value) (count : Nat) : Except Trouble (List Value) :=
  match value, iterate scene value with
  | _, .ok items =>
      if items.length < count then .error (tooFew count items.length)
      else if count < items.length then .error (tooMany count)
      else .ok items
  | undefined complaint, _ => .error (.complaint complaint)
  | value, .error _ => .error (.type ("cannot unpack non-iterable " ++ value.typeName ++ " object"))

mutual
def bind (scene : Scene) : Target → Value → Except Trouble Scope
  | .name name, value => .ok [(name, value)]
  | .tuple targets, value => do bindAll scene targets (← parts scene value targets.length)
termination_by structural target => target
def bindAll (scene : Scene) : List Target → List Value → Except Trouble Scope
  | target :: targets, value :: values => do
      return (← bind scene target value) ++ (← bindAll scene targets values)
  | _, _ => .ok []
termination_by structural targets => targets
end

end Value

end StubForge.Template
