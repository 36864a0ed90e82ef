import DeferredViews.Files.Path
import DeferredViews.Text.Lines
import DeferredViews.Text.Quoted
import DeferredViews.Text.Utf8

/-!
# Files and directories

A tree of directories and files of bytes, listed by their names from the root. A path is walked
name by name from the root or the working directory: each name on the way must be a directory,
and a double point goes back up.
-/
namespace DeferredViews.Files

open Text

inductive Entry where
  | folder
  | file (bytes : List Nat)
  deriving DecidableEq, BEq, ReflBEq, LawfulBEq, Repr

/-- Why a path cannot be used. -/
inductive FileFault where
  | missing
  | notDirectory
  | isDirectory
  | exists
  deriving DecidableEq, Repr

structure FileError where
  fault : FileFault
  path : String
  deriving DecidableEq, Repr

def FileFault.number : FileFault → Nat
  | .missing => 2
  | .notDirectory => 20
  | .isDirectory => 21
  | .exists => 17

def FileFault.text : FileFault → String
  | .missing => "No such file or directory"
  | .notDirectory => "Not a directory"
  | .isDirectory => "Is a directory"
  | .exists => "File exists"

def FileFault.kind : FileFault → String
  | .missing => "FileNotFoundError"
  | .notDirectory => "NotADirectoryError"
  | .isDirectory => "IsADirectoryError"
  | .exists => "FileExistsError"

def FileError.message (e : FileError) : String :=
  "[Errno " ++ toString e.fault.number ++ "] " ++ e.fault.text ++ ": " ++ quoted e.path

/-- The entries below the root, each under its names from the root, and the working directory. -/
structure Tree where
  entries : List (List String × Entry)
  here : List String
  deriving DecidableEq, Repr

namespace Tree

/-- What stands at a place; the root is a directory. -/
def at? (t : Tree) (place : List String) : Option Entry :=
  if place = [] then some .folder else t.entries.lookup place

/-- Put an entry at a place. -/
def put (t : Tree) (place : List String) (e : Entry) : Tree :=
  if t.entries.any (·.1 == place) then
    { t with entries := t.entries.map fun (p, old) => (p, if p = place then e else old) }
  else { t with entries := t.entries ++ [(place, e)] }

@[simp] theorem at?_nil (t : Tree) : t.at? [] = some .folder := rfl

theorem lookup_map_put (l : List (List String × Entry)) (place q : List String) (e : Entry) :
    (l.map fun (p, old) => (p, if p = place then e else old)).lookup q =
      if q = place then (l.lookup q).map fun _ => e else l.lookup q := by
  induction l with
  | nil => simp
  | cons x l ih =>
    obtain ⟨p, old⟩ := x
    by_cases hq : q = p
    · subst hq
      by_cases hp : q = place <;> simp [hp]
    · have hb : (q == p) = false := by simpa using hq
      simp [List.lookup_cons, hb, ih]

theorem isSome_lookup_iff (l : List (List String × Entry)) (place : List String) :
    (l.lookup place).isSome ↔ l.any (·.1 == place) := by
  induction l with
  | nil => simp
  | cons x l ih =>
    obtain ⟨p, old⟩ := x
    by_cases hp : place = p
    · simp [hp]
    · have hb : (place == p) = false := by simpa using hp
      have hc : (p == place) = false := by simpa using fun h : p = place => hp h.symm
      simp only [List.lookup_cons, hb, List.any_cons, hc, Bool.false_or]
      exact ih

/-- What was put at a place stands there. -/
theorem at?_put_self (t : Tree) (place : List String) (e : Entry) (h : place ≠ []) :
    (t.put place e).at? place = some e := by
  unfold at? put
  rw [if_neg h]
  split
  · next hs =>
    obtain ⟨old, ho⟩ := Option.isSome_iff_exists.1 ((isSome_lookup_iff _ _).2 hs)
    simp [lookup_map_put, ho]
  · next hs =>
    have hn : t.entries.lookup place = none := by
      rw [← Option.not_isSome_iff_eq_none, isSome_lookup_iff]
      exact hs
    simp [List.lookup_append, hn]

/-- Nothing else changes when something is put at a place. -/
theorem at?_put_of_ne (t : Tree) {place q : List String} (e : Entry) (h : q ≠ place) :
    (t.put place e).at? q = t.at? q := by
  have hb : (q == place) = false := by simpa using h
  unfold at? put
  split
  · rfl
  · split
    · simp [lookup_map_put, h]
    · simp [List.lookup_append, List.lookup_cons, hb]

@[simp] theorem here_put (t : Tree) (place : List String) (e : Entry) :
    (t.put place e).here = t.here := by
  unfold put
  split <;> rfl

/-- Put directories at a place and at every place above it where nothing stands. -/
def putFolders (t : Tree) (place : List String) : Tree :=
  ((List.range place.length).map fun k => place.take (k + 1)).foldl
    (fun t p => if (t.at? p).isSome then t else t.put p .folder) t

/-- Remove what stands at a place and below it. -/
def remove (t : Tree) (place : List String) : Tree :=
  { t with entries := t.entries.filter fun (p, _) => !place.isPrefixOf p }

/-- Walk names from a place. The last name may be missing only if the walk ends with it. -/
def walk (t : Tree) : List String → List String → Except FileFault (List String)
  | place, [] => .ok place
  | place, n :: more =>
    match t.at? place with
    | some .folder =>
      if n = ".." then walk t place.dropLast more
      else
        match t.at? (place ++ [n]) with
        | some _ => walk t (place ++ [n]) more
        | none => .error .missing
    | some (.file _) => .error .notDirectory
    | none => .error .missing

/-- The place that a path means. -/
def place (t : Tree) (p : Path) : Except FileFault (List String) :=
  if p.names.any (·.contains '\x00') then .error .missing
  else t.walk (if p.root = .relative then t.here else []) p.names

/-- Whether a name holds a null character is settled by its characters. -/
theorem place_eq (t : Tree) (p : Path) :
    t.place p =
      if p.names.any (fun name => decide ('\x00' ∈ name.toList)) then .error .missing
      else t.walk (if p.root = .relative then t.here else []) p.names := by
  rw [place]
  simp only [String.contains_char_eq]

/-- What a path leads to. -/
def find? (t : Tree) (p : Path) : Option Entry :=
  match t.place p with
  | .ok place => t.at? place
  | .error _ => none

def isFile (t : Tree) (p : Path) : Bool :=
  match t.find? p with
  | some (.file _) => true
  | _ => false

def isFolder (t : Tree) (p : Path) : Bool := t.find? p == some .folder

def fileExists (t : Tree) (p : Path) : Bool := (t.find? p).isSome

/-- The bytes of a file. -/
def read (t : Tree) (p : Path) : Except FileError (List Nat) :=
  match t.place p with
  | .error fault => .error ⟨fault, p.text⟩
  | .ok place =>
    match t.at? place with
    | some (.file bytes) => .ok bytes
    | some .folder => .error ⟨.isDirectory, p.text⟩
    | none => .error ⟨.missing, p.text⟩

/-- The names in a directory, in the order of their characters. -/
def list (t : Tree) (p : Path) : Except FileError (List String) :=
  match t.place p with
  | .error fault => .error ⟨fault, p.text⟩
  | .ok place =>
    match t.at? place with
    | some .folder =>
      let names := t.entries.filterMap fun (q, _) =>
        if q ≠ [] ∧ q.dropLast = place then q.getLast? else none
      .ok (names.mergeSort fun a b => decide (a ≤ b))
    | some (.file _) => .error ⟨.notDirectory, p.text⟩
    | none => .error ⟨.missing, p.text⟩

/-- Write a file whose directory exists; what it held before is replaced. -/
def write (t : Tree) (p : Path) (bytes : List Nat) : Except FileError Tree :=
  let fail (fault : FileFault) : Except FileError Tree := .error ⟨fault, p.text⟩
  match p.names.getLast? with
  | none => fail .isDirectory
  | some name =>
    match t.place p.parent with
    | .error fault => fail fault
    | .ok place =>
      match t.at? place with
      | some .folder =>
        let target := if name = ".." then place.dropLast else place ++ [name]
        match t.at? target with
        | some .folder => fail .isDirectory
        | _ => .ok (t.put target (.file bytes))
      | some (.file _) => fail .notDirectory
      | none => fail .missing

/-- Make one directory. -/
def makeFolder (t : Tree) (p : Path) : Except FileError Tree :=
  let fail (fault : FileFault) : Except FileError Tree := .error ⟨fault, p.text⟩
  match p.names.getLast? with
  | none => fail .exists
  | some name =>
    match t.place p.parent with
    | .error fault => fail fault
    | .ok place =>
      match t.at? place with
      | some .folder =>
        if name = ".." ∨ (t.at? (place ++ [name])).isSome then fail .exists
        else .ok (t.put (place ++ [name]) .folder)
      | some (.file _) => fail .notDirectory
      | none => fail .missing

/-- Make a directory unless it is there, and those above it first where they are missing. -/
def makeFolders (t : Tree) : Nat → Path → Except FileError Tree
  | 0, p => .error ⟨.missing, p.text⟩
  | depth + 1, p =>
    match t.makeFolder p with
    | .ok t => .ok t
    | .error e =>
      if e.fault = .missing ∧ p.parent ≠ p then do
        let t ← makeFolders t depth p.parent
        match t.makeFolder p with
        | .ok t => .ok t
        | .error e => if e.fault ≠ .missing ∧ t.isFolder p then .ok t else .error e
      else if e.fault ≠ .missing ∧ t.isFolder p then .ok t
      else .error e

/-- The entries of a later tree that differ from what stood at their places. -/
def changes (before after : Tree) : List (List String × Entry) :=
  after.entries.filter fun (place, e) => before.at? place != some e

/-- Remove a file. -/
def removeFile (t : Tree) (p : Path) : Except FileError Tree :=
  match t.place p with
  | .error fault => .error ⟨fault, p.text⟩
  | .ok place =>
    match t.at? place with
    | some .folder => .error ⟨.isDirectory, p.text⟩
    | _ => .ok (t.remove place)

end Tree

/-- Why a file cannot be read as text. -/
inductive ReadError where
  | file (e : FileError)
  | decode (e : Utf8Error)
  deriving DecidableEq, Repr

/-- The text of a file: strict UTF-8 with unified line ends. -/
def Tree.readText (t : Tree) (p : Path) : Except ReadError String :=
  match t.read p with
  | .error e => .error (.file e)
  | .ok bytes =>
    match decodeUtf8 bytes with
    | .error e => .error (.decode e)
    | .ok s => .ok (String.ofList (unifyLineEnds s))

/-- The tree with a text file at a place, its directories made as needed. -/
def Tree.withFile (t : Tree) (place : List String) (bytes : List Nat) : Tree :=
  (t.putFolders place.dropLast).put place (.file bytes)

end DeferredViews.Files
