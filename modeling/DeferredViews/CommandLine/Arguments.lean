/-!
# Options and arguments

An argument list holds options, with or without a value, and plain arguments. A long option takes
its value after an equals sign or from the next argument, which may look like anything. Short
options may be joined, the value of the last one following at once or as the next argument. Two
hyphens end the options.
-/
namespace DeferredViews.CommandLine

/-- An option: its names, the first of which identifies it, and whether it takes a value. -/
structure OptionKind where
  names : List String
  takesValue : Bool
  deriving DecidableEq, Repr

/-- An option that was given, with its value if it takes one. -/
structure Given where
  name : String
  value : Option String := none
  deriving DecidableEq, Repr

/-- The options given, in order, and the plain arguments. -/
structure Arguments where
  options : List Given := []
  plain : List String := []
  deriving DecidableEq, Repr

/-- An argument list that makes no sense: nothing more is said about it. -/
inductive UsageError where
  | usage
  deriving DecidableEq, Repr

def OptionKind.identity (k : OptionKind) : String := k.names.head?.getD ""

/-- Whether a name is a hyphen and one character. -/
def isShort (name : String) : Bool := name.length = 2

def findOption (kinds : List OptionKind) (name : String) : Option OptionKind :=
  kinds.find? (·.names.contains name)

/-- Take a joined row of short options apart. The answer is the options given and the arguments
left after a value was taken from them. -/
def readCluster (kinds : List OptionKind) (more : List String) :
    List Char → Except UsageError (List Given × List String)
  | [] => .ok ([], more)
  | c :: rest =>
    match findOption kinds (String.ofList ['-', c]) with
    | none => .error .usage
    | some k =>
      if k.takesValue then
        if rest.isEmpty then
          match more with
          | [] => .error .usage
          | v :: more => .ok ([⟨k.identity, some v⟩], more)
        else .ok ([⟨k.identity, some (String.ofList rest)⟩], more)
      else do
        let (given, more) ← readCluster kinds more rest
        .ok (⟨k.identity, none⟩ :: given, more)

/-- The name and the value of an argument with an equals sign. -/
def splitValue (s : String) : String × Option String :=
  match s.toList.span (· ≠ '=') with
  | (name, _ :: value) => (String.ofList name, some (String.ofList value))
  | _ => (s, none)

/-- The long option that an argument names. -/
def findLong (kinds : List OptionKind) (name : String) : Option OptionKind :=
  if isShort name then none else findOption kinds name

/-- Read one argument that starts with a hyphen. -/
def readOption (kinds : List OptionKind) (s : String) (more : List String) :
    Except UsageError (List Given × List String) :=
  let (name, value) := splitValue s
  match findLong kinds name, value, more with
  | some k, some v, more =>
    if k.takesValue then .ok ([⟨k.identity, some v⟩], more) else .error .usage
  | some k, none, v :: rest =>
    if k.takesValue then .ok ([⟨k.identity, some v⟩], rest)
    else .ok ([⟨k.identity, none⟩], v :: rest)
  | some k, none, [] => if k.takesValue then .error .usage else .ok ([⟨k.identity, none⟩], [])
  | none, _, more =>
    if s.startsWith "--" then .error .usage else readCluster kinds more (s.toList.drop 1)

theorem length_of_readCluster {kinds : List OptionKind} {more rest : List String}
    {cs : List Char} {given : List Given}
    (h : readCluster kinds more cs = .ok (given, rest)) : rest.length ≤ more.length := by
  induction cs generalizing given with
  | nil => simp [readCluster] at h; simp [h.2]
  | cons c cs ih =>
    simp only [readCluster] at h
    split at h
    · simp at h
    · split at h
      · split at h
        · split at h
          · simp at h
          · simp at h; simp [← h.2]
        · simp at h; simp [h.2]
      · cases hc : readCluster kinds more cs with
        | error e => simp [hc, bind, Except.bind] at h
        | ok r =>
          simp [hc, bind, Except.bind] at h
          have hr : readCluster kinds more cs = .ok (r.1, rest) := by rw [hc, ← h.2]
          exact ih hr

theorem length_of_readOption {kinds : List OptionKind} {s : String} {more rest : List String}
    {given : List Given} (h : readOption kinds s more = .ok (given, rest)) :
    rest.length ≤ more.length := by
  unfold readOption at h
  simp only at h
  split at h
  · split at h
    · simp at h; simp [h.2]
    · simp at h
  · split at h
    · simp at h; simp [← h.2]
    · simp at h; simp [← h.2]
  · split at h
    · simp at h
    · simp at h; simp [← h.2]
  · split at h
    · simp at h
    · exact length_of_readCluster h

/-- Read an argument list. Where options and plain arguments may not mix, the first plain argument
ends the options. -/
def readArguments (kinds : List OptionKind) (mixed : Bool) :
    List String → Except UsageError Arguments
  | [] => .ok {}
  | s :: more =>
    if s = "--" then .ok { plain := more }
    else if s.startsWith "-" ∧ s ≠ "-" then
      match _h : readOption kinds s more with
      | .error e => .error e
      | .ok (given, rest) => do
        let a ← readArguments kinds mixed rest
        .ok { a with options := given ++ a.options }
    else if mixed then do
      let a ← readArguments kinds mixed more
      .ok { a with plain := s :: a.plain }
    else .ok { plain := s :: more }
  termination_by args => args.length
  decreasing_by
    · have := length_of_readOption _h
      simp
      omega
    · simp

namespace Arguments

def has (a : Arguments) (name : String) : Bool := a.options.any (·.name == name)

/-- The values given to an option, in order. -/
def values (a : Arguments) (name : String) : List String :=
  (a.options.filter (·.name == name)).filterMap (·.value)

/-- The last value given to an option, which counts. -/
def value? (a : Arguments) (name : String) : Option String := (a.values name).getLast?

end Arguments
end DeferredViews.CommandLine
