import StubForge.Text.Integer

set_option autoImplicit false

/-!
Binding the arguments of a call to the parameters of a callee. The receiver of a method counts as
an argument in the messages.
-/

namespace StubForge

structure Signature where
  callee : String
  -- Parameter names after the receiver, and which of them may be left out.
  parameters : List (String × Bool)

inductive BindFault where
  | unexpected (callee argument : String)
  | repeated (callee argument : String)
  | tooMany (callee : String) (least most given : Nat)
  | missing (callee : String) (parameters : List String)
  deriving DecidableEq, Repr

namespace BindFault

def listed : List String → String
  | [] => ""
  | [a] => Text.quoted a
  | [a, b] => Text.quoted a ++ " and " ++ Text.quoted b
  | names =>
      Text.join ", " (names.dropLast.map Text.quoted) ++ ", and "
        ++ Text.quoted (names.getLast?.getD "")

def message : BindFault → String
  | unexpected callee argument =>
      callee ++ "() got an unexpected keyword argument " ++ Text.quoted argument
  | repeated callee argument =>
      callee ++ "() got multiple values for argument " ++ Text.quoted argument
  | tooMany callee least most given =>
      let range := if least = most then Text.natText most
        else "from " ++ Text.natText least ++ " to " ++ Text.natText most
      let noun := if least = most && most = 1 then " positional argument but " else " positional arguments but "
      callee ++ "() takes " ++ range ++ noun ++ Text.natText given
        ++ (if given = 1 then " was given" else " were given")
  | missing callee parameters =>
      let noun := if parameters.length = 1 then " required positional argument: "
        else " required positional arguments: "
      callee ++ "() missing " ++ Text.natText parameters.length ++ noun ++ listed parameters

end BindFault

namespace Signature

def setNamed {α : Type} (callee name : String) (value : α) :
    List (String × Option α) → Except BindFault (List (String × Option α))
  | [] => .error (.unexpected callee name)
  | (parameter, bound) :: rest =>
      if parameter = name then
        match bound with
        | some _ => .error (.repeated callee name)
        | none => .ok ((parameter, some value) :: rest)
      else (setNamed callee name value rest).map ((parameter, bound) :: ·)

def fill {α : Type} : List (String × Bool) → List α → List (String × Option α)
  | [], _ => []
  | (name, _) :: rest, [] => (name, none) :: fill rest []
  | (name, _) :: rest, value :: values => (name, some value) :: fill rest values

-- The argument of every parameter, `none` where the default is to be taken.
def bind {α : Type} (signature : Signature) (positional : List α) (named : List (String × α)) :
    Except BindFault (List (String × Option α)) := do
  let start := fill signature.parameters positional
  let bound ← named.foldlM
    (fun bound argument => setNamed signature.callee argument.1 argument.2 bound) start
  let most := signature.parameters.length
  let least := (signature.parameters.filter (!·.2)).length
  if most < positional.length then
    throw (.tooMany signature.callee (least + 1) (most + 1) (positional.length + 1))
  let unbound := (bound.zip signature.parameters).filterMap fun (argument, parameter) =>
    if argument.2.isNone && !parameter.2 then some parameter.1 else none
  if unbound.isEmpty then return bound else throw (.missing signature.callee unbound)

end Signature

end StubForge
