import DeferredViews.Fault

/-!
# Signatures

A signature names the parameters of an operation; arguments are bound to them by position and by
keyword. The first parameters may be supplied by the renderer itself, which the count in a
complaint includes.
-/
namespace DeferredViews.Template

open Text

structure Parameter where
  name : String
  required : Bool
  deriving DecidableEq, Repr

/-- An operation and its parameters; `supplied` of them come before the arguments. -/
structure Signature where
  operation : String
  supplied : Nat
  parameters : List Parameter
  deriving Repr

namespace Signature

def required (name : String) : Parameter := ⟨name, true⟩

def optional (name : String) : Parameter := ⟨name, false⟩

/-- A list of quoted names in a sentence. -/
def enumerate : List String → String
  | [] => ""
  | [a] => quoted a
  | [a, b] => quoted a ++ " and " ++ quoted b
  | names =>
    String.intercalate ", " (names.dropLast.map quoted) ++ ", and " ++
      quoted (names.getLast?.getD "")

def plural (n : Nat) (word : String) : String := if n = 1 then word else word ++ "s"

/-- How many arguments an operation takes, and how many it got. -/
def countText (s : Signature) (given : Nat) : String :=
  let most := s.supplied + s.parameters.length
  let least := s.supplied + (s.parameters.filter (·.required)).length
  " takes " ++
    (if least = most then toString most ++ " positional " ++ plural most "argument"
     else "from " ++ toString least ++ " to " ++ toString most ++ " positional arguments") ++
    " but " ++ toString given ++ (if given = 1 then " was" else " were") ++ " given"

/-- Bind arguments to parameters: by position first, then by keyword. A parameter without an
argument stays open if it may. -/
def bind (s : Signature) (args : List Value) (kwargs : Locals) :
    Except Fault (List (Option Value)) :=
  let refuse (text : String) : Except Fault (List (Option Value)) :=
    .error (.type (.arguments (s.operation ++ "()" ++ text)))
  let names := s.parameters.map (·.name)
  let wrong := kwargs.findSome? fun (k, _) =>
    if names.contains k then
      if (names.take args.length).contains k then
        some (" got multiple values for argument " ++ quoted k)
      else none
    else some (" got an unexpected keyword argument " ++ quoted k)
  match wrong with
  | some text => refuse text
  | none =>
    if names.length < args.length then refuse (s.countText (s.supplied + args.length))
    else
      let bound := args.map some ++ (names.drop args.length).map kwargs.get?
      let missing := (s.parameters.zip bound).filterMap fun (p, v) =>
        if p.required && v.isNone then some p.name else none
      if missing.isEmpty then .ok bound
      else refuse (" missing " ++ toString missing.length ++ " required positional " ++
        plural missing.length "argument" ++ ": " ++ enumerate missing)

end Signature
end DeferredViews.Template
