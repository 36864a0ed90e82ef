import DeferredViews.CommandLine.Program
import DeferredViews.Value.Calendar
import Std.Time.DateTime.Timestamp

/-!
# The executable

The outer layer of the program. It takes a picture of the files that a run may look at and of the
environment, lets `CommandLine.run` decide everything, and carries out the outcome: text goes to
the standard streams, and files that differ go back to the disk.
-/
namespace DeferredViews.Disk

open Files Text

/-- The places beyond its arguments that a run may look at: the view roots and the directory of
partials that the configuration names. -/
def configuredPlaces (files : Tree) (env : List (String × String)) (arguments : List String) :
    List String :=
  match CommandLine.Invocation.ofArguments files arguments with
  | .ok (.command flags _ _) =>
    match Config.load files env flags.config true with
    | .ok l => l.settings.views ++ l.settings.partials.directory.text?.toList
    | .error _ => []
  | _ => []

/-- The paths that an argument may hold: all of it, or what follows its first equality sign. -/
def pathsIn (argument : String) : List String :=
  [argument, String.ofList ((argument.toList.dropWhile (· ≠ '=')).drop 1)]

/-- The variables in a block of settings, each of them ended by a zero byte. -/
def variablesOf (block : List Nat) : List (String × String) :=
  match decodeUtf8 block with
  | .error _ => []
  | .ok s =>
    (splitOn (· == '\x00') s).filterMap fun one =>
      match one.dropWhile (· ≠ '=') with
      | [] => none
      | _ :: value => some (String.ofList (one.takeWhile (· ≠ '=')), String.ofList value)

def bytesOf (content : ByteArray) : List Nat := content.toList.map (·.toNat)

def contentOf (bytes : List Nat) : ByteArray := ⟨(bytes.map (·.toUInt8)).toArray⟩

/-- A place in a tree with what stands there. -/
abbrev Found := List String × Entry

/-- Add what stands at a place on the disk, and what stands below it down to some depth. What
cannot be read is left out. -/
def scan : Nat → Array Found → IO.FS.DirEntry → IO (Array Found)
  | 0, found, _ => return found
  | depth + 1, found, entry => do
    let path := entry.path
    let place := (Path.ofText path.toString).names
    if ← path.isDir then
      let below ← try path.readDir catch _ => pure #[]
      below.foldlM (scan depth) (found.push (place, .folder))
    else if ← path.pathExists then
      try return found.push (place, .file (bytesOf (← IO.FS.readBinFile path)))
      catch _ => return found
    else return found

/-- How many directories deep the disk is looked at. -/
def depth : Nat := 32

/-- The places that do not stand at or below another one. -/
def outermost (places : List (List String)) : List (List String) :=
  (places.mergeSort fun p q => p.length ≤ q.length).foldl
    (fun kept p => if kept.any (·.isPrefixOf p) then kept else kept ++ [p]) []

/-- What stands at and below some places, and the directories above those that are there. -/
def treeAt (here : List String) (places : List (List String)) : IO Tree := do
  let disk ← IO.currentDir
  let found ← (outermost places).foldlM
    (fun found p => scan depth found ⟨disk, "/" ++ String.intercalate "/" p⟩) #[]
  let files : Tree := ⟨found.toList, here⟩
  return (places.filter fun p => (files.at? p).isSome).foldl
    (fun files p => files.putFolders p.dropLast) files

/-- The files that a run with the given arguments may look at: those below the working directory
and those that the arguments or the configuration name. -/
def picture (env : List (String × String)) (arguments : List String) : IO Tree := do
  let here := (Path.ofText (← IO.currentDir).toString).names
  let placesOf (paths : List String) : List (List String) :=
    (paths.filter (!·.isEmpty)).map fun p =>
      (Path.absolute ⟨.absolute, here⟩ (.ofText p)).names
  let named := here :: placesOf (arguments.flatMap pathsIn)
  let files ← treeAt here named
  match placesOf (configuredPlaces files env arguments) with
  | [] => return files
  | more => treeAt here (named ++ more)

def environment : IO (List (String × String)) := do
  try return variablesOf (bytesOf (← IO.FS.readBinFile "/proc/self/environ"))
  catch _ => return []

/-- The time by the clock on the wall. -/
def now : IO Moment := do
  let nanoseconds := (← Std.Time.Timestamp.now).toNanosecondsSinceUnixEpoch.val
  let micro := Int.fdiv nanoseconds 1000
  return .ofSeconds (Int.fdiv micro 1000000) (Int.fmod micro 1000000).toNat

/-- Bring an entry of a tree to the disk. -/
def store (place : List String) : Entry → IO Unit
  | .folder => IO.FS.createDirAll ("/" ++ String.intercalate "/" place)
  | .file bytes => IO.FS.writeBinFile ("/" ++ String.intercalate "/" place) (contentOf bytes)

end DeferredViews.Disk

open DeferredViews in
/-- Run the program on the disk. -/
def main (arguments : List String) : IO UInt32 := do
  let env ← Disk.environment
  let files ← Disk.picture env arguments
  let time ← Disk.now
  let outcome := CommandLine.run files env arguments
  let errors ← IO.getStderr
  IO.print outcome.out
  errors.putStr (outcome.logText (← errors.isTty) time)
  (files.changes outcome.files).forM fun (place, e) => Disk.store place e
  match outcome.escaped with
  | some f => errors.putStrLn (f.kind ++ ": " ++ f.message)
  | none => pure ()
  if outcome.status = CommandLine.usageStatus then errors.putStr CommandLine.helpText
  return outcome.status.toUInt32
