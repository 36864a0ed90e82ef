import DeferredViews.Value.Compare

/-!
# Environment references

A text may refer to environment variables as `${NAME}`. References are found in one scan from the
left: after the opening mark come one or more characters other than a closing brace, and then the
brace. Values are put in as they are and not scanned again. Keys of mappings are left alone.
-/
namespace DeferredViews.Config

/-- A part of a text: a plain character, or a reference to a variable. -/
inductive Part where
  | plain (c : Char)
  | reference (name : List Char)
  deriving DecidableEq, Repr

/-- The name of a reference after its opening mark, and what follows the reference. -/
def readReference (s : List Char) : Option (List Char × List Char) :=
  match s.takeWhile (· ≠ '\x7d'), s.dropWhile (· ≠ '\x7d') with
  | c :: name, _ :: rest => some (c :: name, rest)
  | _, _ => none

theorem readReference_length {s name rest : List Char}
    (h : readReference s = some (name, rest)) : rest.length < s.length := by
  unfold readReference at h
  split at h
  · next c n d r h1 h2 =>
    obtain ⟨_, rfl⟩ := Prod.mk.inj (Option.some.inj h)
    have hs := List.takeWhile_append_dropWhile (p := (· ≠ '\x7d')) (l := s)
    rw [h1, h2] at hs
    rw [← hs]
    simp
    omega
  · simp at h

/-- Take a text apart, from the left. -/
def parts : List Char → List Part
  | [] => []
  | '$' :: '\x7b' :: rest =>
    match _h : readReference rest with
    | some (name, after) => .reference name :: parts after
    | none => .plain '$' :: parts ('\x7b' :: rest)
  | c :: rest => .plain c :: parts rest
  termination_by s => s.length
  decreasing_by
    · have := readReference_length _h
      simp
      omega
    · simp
    · simp

/-- The text of a part in an environment. -/
def Part.resolve (env : List (String × String)) : Part → Except Fault (List Char)
  | .plain c => .ok [c]
  | .reference name =>
    match env.lookup (String.ofList name) with
    | some v => .ok v.toList
    | none => .error (.value ("Environment variable not set: " ++ String.ofList name))

/-- Replace the references of a text; the first variable that is not set is a fault. -/
def resolveParts (env : List (String × String)) : List Part → Except Fault (List Char)
  | [] => .ok []
  | p :: more => do
    let s ← p.resolve env
    .ok (s ++ (← resolveParts env more))

def resolveText (env : List (String × String)) (s : String) : Except Fault String :=
  (resolveParts env (parts s.toList)).map String.ofList

mutual

/-- Replace the references of every text in value position. -/
def resolveValue (env : List (String × String)) : Value → Except Fault Value
  | .str s | .markup s => do .ok (.str (← resolveText env s))
  | .list items => do .ok (.list (← resolveItems env items))
  | .dict entries => do .ok (.dict (← resolveEntries env entries))
  | v => .ok v

def resolveItems (env : List (String × String)) : List Value → Except Fault (List Value)
  | [] => .ok []
  | v :: more => do
    let v ← resolveValue env v
    .ok (v :: (← resolveItems env more))

def resolveEntries (env : List (String × String)) :
    List (Value × Value) → Except Fault (List (Value × Value))
  | [] => .ok []
  | (k, v) :: more => do
    let v ← resolveValue env v
    .ok ((k, v) :: (← resolveEntries env more))

end

end DeferredViews.Config
