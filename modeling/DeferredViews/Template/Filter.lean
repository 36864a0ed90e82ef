import DeferredViews.Template.Signature
import DeferredViews.Text.Blank
import DeferredViews.Value.Member

/-!
# Filters and tests

A filter changes a value, a test asks about it. Case changes and trimming keep markup markup;
joining and replacing escape plain text that meets markup.
-/
namespace DeferredViews.Template

open Text

inductive Filter where
  | upper
  | lower
  | capitalize
  | title
  | length
  | trim
  | replace
  | join
  | first
  | last
  | default
  | escape
  | safe
  deriving DecidableEq, Repr

def Filter.ofName? : String → Option Filter
  | "upper" => some .upper
  | "lower" => some .lower
  | "capitalize" => some .capitalize
  | "title" => some .title
  | "length" => some .length
  | "trim" => some .trim
  | "replace" => some .replace
  | "join" => some .join
  | "first" => some .first
  | "last" => some .last
  | "default" | "d" => some .default
  | "escape" | "e" => some .escape
  | "safe" => some .safe
  | _ => none

open Signature in
/-- The parameters of a filter after the filtered value. -/
def Filter.signature : Filter → Signature
  | .upper => ⟨"do_upper", 1, []⟩
  | .lower => ⟨"do_lower", 1, []⟩
  | .capitalize => ⟨"do_capitalize", 1, []⟩
  | .title => ⟨"do_title", 1, []⟩
  | .length => ⟨"len", 1, []⟩
  | .trim => ⟨"do_trim", 1, [optional "chars"]⟩
  | .replace => ⟨"do_replace", 2, [required "old", required "new", optional "count"]⟩
  | .join => ⟨"sync_do_join", 2, [optional "d", optional "attribute"]⟩
  | .first => ⟨"sync_do_first", 2, []⟩
  | .last => ⟨"do_last", 2, []⟩
  | .default => ⟨"do_default", 1, [optional "default_value", optional "boolean"]⟩
  | .escape => ⟨"escape", 1, []⟩
  | .safe => ⟨"do_mark_safe", 1, []⟩

/-- The characters between which a word starts anew. -/
def isWordBreak (c : Char) : Bool :=
  c = '-' || c = '(' || c = '{' || c = '[' || c = '<' || isBlank c

/-- Runs of word breaks and runs of other characters, in order. -/
def wordRuns (s : List Char) : List (List Char) :=
  s.foldr
    (fun c runs =>
      match runs with
      | (d :: run) :: more =>
        if isWordBreak c = isWordBreak d then (c :: d :: run) :: more else [c] :: (d :: run) :: more
      | runs => [c] :: runs)
    []

/-- Every word with its first letter in upper case and the others in lower case. -/
def titled (s : List Char) : List Char :=
  (wordRuns s).flatMap fun
    | [] => []
    | c :: rest => upperChar c ++ Text.lower rest

/-- Drop the given characters from both ends. -/
def trimChars (chars s : List Char) : List Char :=
  ((s.dropWhile chars.contains).reverse.dropWhile chars.contains).reverse

/-- The number of replacements that an argument asks for; a negative one means all. -/
def replaceCount : Option Value → Except Fault (Option Nat)
  | none | some .null => .ok none
  | some v =>
    match v.toInt? with
    | some n => .ok (if n < 0 then none else some n.toNat)
    | none =>
      .error (.type (.arguments ("'" ++ v.typeName ++ "' object cannot be interpreted as an integer")))

/-- The items to be joined: the values themselves, or what they have under a path. -/
def joinItems (v : Value) (path : Option Value) : Except Fault (List Value) := do
  let xs ← v.items
  match path with
  | none | some .null => .ok xs
  | some key =>
    match key.text? with
    | some p => xs.mapM (·.getPath p)
    | none => xs.mapM (·.getElement key)

/-- Apply a filter to a value and the values of its parameters. -/
def Filter.run (autoescape : Bool) (f : Filter) (v : Value) (args : List (Option Value)) :
    Except Fault Value :=
  let arg (i : Nat) : Option Value := args[i]?.join
  match f with
  | .upper => .ok (v.mapText Text.upper)
  | .lower => .ok (v.mapText Text.lower)
  | .capitalize => .ok (v.mapText Text.capitalize)
  | .title => .ok (.str (String.ofList (titled v.text.toList)))
  | .length => v.length.map fun (n : Nat) => .int n
  | .trim =>
    match arg 0 with
    | none | some .null => .ok (v.mapText Text.trim)
    | some c =>
      match c.text? with
      | some chars => .ok (v.mapText (trimChars chars.toList))
      | none => .error (.type (.arguments "strip arg must be None or str"))
  | .replace => do
    let count ← replaceCount (arg 2)
    .ok (Value.replaced autoescape ((arg 0).getD .null) ((arg 1).getD .null) count v)
  | .join => do
    .ok (Value.joined autoescape ((arg 0).getD (.str "")) (← joinItems v (arg 1)))
  | .first => do .ok ((← v.items).head?.getD (.absent .noFirst))
  | .last => do .ok ((← v.itemsBackward).head?.getD (.absent .noLast))
  | .default =>
    let boolean := ((arg 1).getD (.bool false)).truthy
    .ok (if v.isAbsent || (boolean && !v.truthy) then (arg 0).getD (.str "") else v)
  | .escape => .ok (.markup v.html)
  | .safe => .ok (.markup v.text)

/-- Apply a filter to a value and its arguments. -/
def Filter.apply (autoescape : Bool) (f : Filter) (v : Value) (args : List Value)
    (kwargs : Locals) : Except Fault Value := do
  match f, kwargs, args with
  | .length, _ :: _, _ => .error (.type (.arguments "len() takes no keyword arguments"))
  | .length, [], _ :: _ =>
    .error (.type (.arguments
      ("len() takes exactly one argument (" ++ toString (args.length + 1) ++ " given)")))
  | f, _, _ => f.run autoescape v (← f.signature.bind args kwargs)

inductive Test where
  | isDefined
  | isUndefined
  | isNone
  deriving DecidableEq, Repr

def Test.ofName? : String → Option Test
  | "defined" => some .isDefined
  | "undefined" => some .isUndefined
  | "none" => some .isNone
  | _ => none

def Test.signature : Test → Signature
  | .isDefined => ⟨"test_defined", 1, []⟩
  | .isUndefined => ⟨"test_undefined", 1, []⟩
  | .isNone => ⟨"test_none", 1, []⟩

def Test.holds : Test → Value → Bool
  | .isDefined, v => !v.isAbsent
  | .isUndefined, v => v.isAbsent
  | .isNone, .null => true
  | .isNone, _ => false

/-- Apply a test to a value and its arguments. -/
def Test.apply (t : Test) (v : Value) (args : List Value) (kwargs : Locals) :
    Except Fault Value := do
  discard (t.signature.bind args kwargs)
  .ok (.bool (t.holds v))

end DeferredViews.Template
