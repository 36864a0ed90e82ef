import DeferredViews.Text.Case
import DeferredViews.Value.Markup
import DeferredViews.Value.Sequence

/-!
# Members, elements and methods

`a.b` looks for a member that values of the type have, then for an element with that key; `a[b]`
looks the other way round. What neither finds is absent, and says what was looked for. Texts can
be changed in case, mappings looked into.
-/
namespace DeferredViews.Value

open Text

/-- A date or time part of a day or moment. -/
def Moment.part? (m : Moment) : String → Option Nat
  | "year" => some m.day.year
  | "month" => some m.day.month
  | "day" => some m.day.day
  | "hour" => some m.hour
  | "minute" => some m.minute
  | "second" => some m.second
  | "microsecond" => some m.micro
  | _ => none

/-- What a loop tells about its state. -/
def loopPart? (index length : Nat) : String → Option Value
  | "index" => some (int (index + 1))
  | "index0" => some (int index)
  | "revindex" => some (int ((length : Int) - index))
  | "revindex0" => some (int ((length : Int) - index - 1))
  | "first" => some (bool (index = 0))
  | "last" => some (bool (index + 1 = length))
  | "length" => some (int length)
  | _ => none

/-- The methods that templates may call. -/
def methods : Value → List String
  | str _ | markup _ => ["upper", "lower", "capitalize"]
  | dict _ => ["get", "items", "keys", "values"]
  | _ => []

/-- A member that a value has by its type. -/
def ownMember? (v : Value) (name : String) : Option Value :=
  match v with
  | loop index length => loopPart? index length name
  | day d =>
    if name ∈ ["year", "month", "day"] then
      (Moment.part? ⟨d, 0, 0, 0, 0, none⟩ name).map fun (n : Nat) => int n
    else none
  | moment m => (Moment.part? m name).map fun (n : Nat) => int n
  | v => if name ∈ v.methods then some (method v name) else none

/-- The value of `v.name`. -/
def getMember (v : Value) (name : String) : Except Fault Value :=
  match v with
  | absent why => .error (.undefined why)
  | v =>
    match v.ownMember? name with
    | some w => .ok w
    | none => .ok ((v.element? (str name)).getD (absent (.member v.ownerName name)))

/-- The value of `v[key]`. -/
def getElement (v key : Value) : Except Fault Value :=
  match v with
  | absent why => .error (.undefined why)
  | v =>
    match v.element? key with
    | some w => .ok w
    | none =>
      match key.text? with
      | some name => .ok ((v.ownMember? name).getD (absent (.member v.ownerName name)))
      | none => .ok (absent (.element v.ownerName key.shown))

/-- The part `v[a:b:c]` of a sequence. -/
def getSlice (v a b c : Value) : Except Fault Value :=
  match v with
  | absent why => .error (.undefined why)
  | dict _ => .error (.type (.unhashable "slice"))
  | str _ | markup _ | list _ | tuple _ =>
    match c.bound?, v.element? (slice a b c) with
    | some (some 0), _ => .error (.value "slice step cannot be zero")
    | _, some w => .ok w
    | _, none => .error (.type .sliceBound)
  | v => .error (.type (.notSubscriptable v.typeName))

/-- Members of members, by a dotted path; a part of digits is an index. -/
def getPath (v : Value) (path : String) : Except Fault Value :=
  (splitOn (· == '.') path.toList).foldlM
    (fun v part =>
      if part ≠ [] ∧ part.all isDigit then
        v.getElement (int (readDigits 10 (fun c => (digitValue? c).getD 0) part))
      else v.getElement (str (String.ofList part)))
    v

/-- The faults of a method that takes no arguments. -/
def noArguments (owner : Value) (name : String) (args : List Value) (kwargs : Locals) :
    Except Fault Unit :=
  let full := owner.typeName ++ "." ++ name ++ "()"
  let refuse (text : String) : Except Fault Unit := .error (.type (.arguments (full ++ text)))
  match kwargs, args with
  | (k, _) :: _, _ =>
    if owner.isMarkup then refuse (" got an unexpected keyword argument " ++ quoted k)
    else refuse " takes no keyword arguments"
  | [], [] => .ok ()
  | [], _ :: _ =>
    if owner.isMarkup then
      refuse (" takes 1 positional argument but " ++ toString (args.length + 1) ++ " were given")
    else refuse (" takes no arguments (" ++ toString args.length ++ " given)")

/-- The entry of a mapping, or a default. -/
def getEntry (entries : List (Value × Value)) (args : List Value) (kwargs : Locals) :
    Except Fault Value := do
  let refuse (text : String) : Except Fault Value := .error (.type (.arguments text))
  match kwargs, args with
  | _ :: _, _ => refuse "dict.get() takes no keyword arguments"
  | [], [] => refuse "get expected at least 1 argument, got 0"
  | [], key :: more =>
    match more with
    | [] | [_] =>
      if key.hashable then .ok ((find? entries key).getD (more.head?.getD null))
      else .error (.type (.unhashable key.typeName))
    | _ => refuse ("get expected at most 2 arguments, got " ++ toString args.length)

/-- Call a method of a value. -/
def callMethod (owner : Value) (name : String) (args : List Value) (kwargs : Locals) :
    Except Fault Value := do
  match owner, name with
  | dict es, "get" => getEntry es args kwargs
  | dict es, name => do
    noArguments owner name args kwargs
    match name with
    | "keys" => .ok (view "dict_keys" (es.map (·.1)))
    | "values" => .ok (view "dict_values" (es.map (·.2)))
    | _ => .ok (view "dict_items" (es.map fun (k, v) => tuple [k, v]))
  | owner, name => do
    noArguments owner name args kwargs
    match name with
    | "upper" => .ok (owner.mapText upper)
    | "lower" => .ok (owner.mapText lower)
    | _ => .ok (owner.mapText capitalize)

end DeferredViews.Value
