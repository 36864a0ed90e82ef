import DeferredViews.Yaml.Number
import DeferredViews.Yaml.Time

/-!
# Tags and the meaning of scalars

A tag says what kind of value a node is. A plain scalar without a tag is given one by the form of
its text; other scalars are text. The value of a scalar follows from its tag.
-/
namespace DeferredViews.Yaml

inductive Tag where
  | null
  | bool
  | int
  | float
  | timestamp
  | str
  | seq
  | map
  /-- The key whose value is merged into a mapping. -/
  | merge
  /-- The key of the default value of a mapping. -/
  | value
  | unknown (name : String)
  deriving DecidableEq, Repr

/-- What the names of the core tags start with. -/
def corePart : String := "tag:yaml.org,2002:"

def Tag.ofText (s : String) : Tag :=
  let name := (Text.dropPattern? corePart.toList s.toList).map String.ofList
  match name with
  | some "null" => .null
  | some "bool" => .bool
  | some "int" => .int
  | some "float" => .float
  | some "timestamp" => .timestamp
  | some "str" => .str
  | some "seq" => .seq
  | some "map" => .map
  | some "merge" => .merge
  | some "value" => .value
  | _ => .unknown s

def trueTexts : List String := ["yes", "Yes", "YES", "true", "True", "TRUE", "on", "On", "ON"]

def falseTexts : List String := ["no", "No", "NO", "false", "False", "FALSE", "off", "Off", "OFF"]

def nullTexts : List String := ["", "~", "null", "Null", "NULL"]

/-- The tag of a plain scalar. -/
def Tag.ofPlain (s : String) : Tag :=
  if (trueTexts ++ falseTexts).contains s then .bool
  else if nullTexts.contains s then .null
  else if isFractional s.toList then .float
  else if isWhole s.toList then .int
  else if s = "<<" then .merge
  else if isStamp s.toList then .timestamp
  else if s = "=" then .value
  else .str

/-- The truth value that a text names, in letters of any case. -/
def truthOf (s : String) : Except Fault Bool :=
  let lowered := String.ofList (s.toList.map Char.toLower)
  if trueTexts.contains lowered then .ok true
  else if falseTexts.contains lowered then .ok false
  else .error (.key (Text.quoted lowered))

/-- The value of a scalar. -/
def Tag.scalarValue (t : Tag) (s : String) : Except Fault Value :=
  match t with
  | .null => .ok .null
  | .bool => return .bool (← truthOf s)
  | .int => return .int (← wholeNumber s.toList)
  | .float => return .float (← fractionalNumber s.toList)
  | .timestamp =>
    match readStamp s.toList with
    | some stamp => stamp.value
    | none => .error (.noMember "NoneType" "groupdict")
  | .str => .ok (.str s)
  | .seq => .error (.malformed "a scalar is no sequence")
  | .map => .error (.malformed "a scalar is no mapping")
  | .merge | .value => .error (.malformed ("no value for " ++ Text.quoted s))
  | .unknown name => .error (.malformed ("no value for the tag " ++ Text.quoted name))

end DeferredViews.Yaml
