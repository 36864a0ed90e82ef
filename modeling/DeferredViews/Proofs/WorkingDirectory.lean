import DeferredViews.CommandLine.Program
import DeferredViews.Proofs.Encoding

/-!
# The working directory

Most paths that a command meets lie in its working directory. Where that directory is there under
its own name, such a path leads to what stands under it, and a configuration is looked for in two
places. A directory with a single file is enough for most examples.
-/
namespace DeferredViews

/-! ## Paths below the working directory -/

namespace Files.Tree

variable {t : Tree} {name : String}

/-- A working directory that is there, under its own name. -/
structure AtHome (t : Tree) : Prop where
  folders : ∀ k ≤ t.here.length, t.at? (t.here.take k) = some .folder
  noParents : ∀ n ∈ t.here, n ≠ ".."
  nullFree : ∀ n ∈ t.here, Text.NullFree n

/-- A path below the working directory. -/
def inHome (t : Tree) (names : List String) : Path := ⟨.absolute, t.here ++ names⟩

theorem walk_of_folders {dir names : List String} (hparents : ∀ n ∈ names, n ≠ "..")
    (hfolders : ∀ k ≤ names.length, t.at? (dir ++ names.take k) = some .folder) :
    t.walk dir names = .ok (dir ++ names) := by
  induction names generalizing dir with
  | nil => rw [walk, List.append_nil]
  | cons n names ih =>
    have hdir : t.at? dir = some .folder := by simpa using hfolders 0 (Nat.zero_le _)
    have hnext : t.at? (dir ++ [n]) = some .folder := hfolders 1 (by simp)
    have hrest : t.walk (dir ++ [n]) names = .ok (dir ++ [n] ++ names) :=
      ih (fun m hm => hparents m (List.mem_cons_of_mem n hm))
        fun k hk => by simpa using hfolders (k + 1) (Nat.succ_le_succ hk)
    rw [walk, hdir]
    dsimp only
    rw [if_neg (hparents n List.mem_cons_self), hnext]
    dsimp only
    rw [hrest, List.append_assoc, List.singleton_append]

namespace AtHome

theorem folder (h : t.AtHome) : t.at? t.here = some .folder := by
  simpa using h.folders t.here.length (Nat.le_refl _)

theorem place_inHome (h : t.AtHome) {names : List String} (hnames : ∀ n ∈ names, Text.NullFree n) :
    t.place (t.inHome names) = t.walk t.here names := by
  have hwalk : t.walk [] t.here = .ok t.here :=
    walk_of_folders h.noParents fun k hk => h.folders k hk
  have hnull : ¬ ((t.here ++ names).any fun n => decide ('\x00' ∈ n.toList)) = true := by
    intro hany
    obtain ⟨n, hn, hmem⟩ := List.any_eq_true.mp hany
    rcases List.mem_append.mp hn with hhere | hmore
    · exact h.nullFree n hhere (of_decide_eq_true hmem)
    · exact hnames n hmore (of_decide_eq_true hmem)
  rw [place_eq, inHome, if_neg hnull, if_neg nofun, walk_append, hwalk]
  rfl

/-- What a name leads to from the working directory is what stands there under this name. -/
theorem walk_name (h : t.AtHome) (hname : name ≠ "..") :
    t.walk t.here [name] =
      if (t.at? (t.here ++ [name])).isSome then .ok (t.here ++ [name]) else .error .missing := by
  rw [walk, h.folder]
  dsimp only
  rw [if_neg hname]
  cases t.at? (t.here ++ [name]) <;> rfl

theorem place_name (h : t.AtHome) (hname : name ≠ "..") (hnull : Text.NullFree name)
    (hsome : (t.at? (t.here ++ [name])).isSome = true) :
    t.place (t.inHome [name]) = .ok (t.here ++ [name]) ∧
      t.place ⟨.relative, [name]⟩ = .ok (t.here ++ [name]) := by
  have hfree : ¬ ([name].any fun n => decide ('\x00' ∈ n.toList)) = true := by
    simpa [Text.NullFree] using hnull
  have hwalk := h.walk_name hname
  rw [if_pos hsome] at hwalk
  exact ⟨by rw [h.place_inHome (by simpa using hnull), hwalk],
    by rw [place_eq, if_neg hfree, if_pos rfl, hwalk]⟩

theorem read_inHome (h : t.AtHome) (hname : name ≠ "..") (hnull : Text.NullFree name)
    {bytes : List Nat} (hfile : t.at? (t.here ++ [name]) = some (.file bytes)) :
    t.read (t.inHome [name]) = .ok bytes ∧ t.read ⟨.relative, [name]⟩ = .ok bytes := by
  obtain ⟨hfull, hshort⟩ := h.place_name hname hnull (by rw [hfile, Option.isSome_some])
  constructor
  · rw [read, hfull]
    dsimp only
    rw [hfile]
  · rw [read, hshort]
    dsimp only
    rw [hfile]

theorem fileExists_inHome (h : t.AtHome) (hname : name ≠ "..") (hnull : Text.NullFree name) :
    t.fileExists (t.inHome [name]) = (t.at? (t.here ++ [name])).isSome := by
  rw [fileExists, find?, h.place_inHome (by simpa using hnull), h.walk_name hname]
  cases hentry : t.at? (t.here ++ [name]) with
  | none => rfl
  | some e =>
    dsimp only [Option.isSome]
    rw [if_pos rfl]
    dsimp only
    rw [hentry]

/-- Where nothing stands in a directory below the working directory, no file is found. -/
theorem fileExists_below (h : t.AtHome) {folder : String} (hnames : folder ≠ ".." ∧ name ≠ "..")
    (hnull : Text.NullFree folder ∧ Text.NullFree name)
    (hnone : t.at? (t.here ++ [folder, name]) = none) :
    t.fileExists (t.inHome [folder, name]) = false := by
  have happend : t.walk t.here [folder, name] =
      (t.walk t.here [folder]).bind fun q => t.walk q [name] := t.walk_append t.here [folder] [name]
  rw [fileExists, find?, h.place_inHome (by simpa using hnull), happend, h.walk_name hnames.1]
  cases (t.at? (t.here ++ [folder])).isSome with
  | false => rfl
  | true =>
    rw [if_pos rfl]
    dsimp only [Except.bind]
    rw [walk, if_neg hnames.2, List.append_assoc, List.singleton_append, hnone]
    cases t.at? (t.here ++ [folder]) with
    | none => rfl
    | some e => cases e <;> rfl

/-- A file can be written in the working directory unless a directory is in its place. -/
theorem write_inHome (h : t.AtHome) (hname : name ≠ "..")
    (hfolder : t.at? (t.here ++ [name]) ≠ some .folder) (bytes : List Nat) :
    t.write (t.inHome [name]) bytes = .ok (t.put (t.here ++ [name]) (.file bytes)) := by
  have hparent : (t.inHome [name]).parent = t.inHome [] := by
    simp [inHome, Path.parent]
  have hplace : t.place (t.inHome []) = .ok t.here := by
    rw [h.place_inHome fun _ hn => absurd hn List.not_mem_nil, walk]
  rw [write, inHome, List.getLast?_concat, ← inHome, hparent, hplace]
  dsimp only
  rw [h.folder]
  dsimp only
  rw [if_neg hname]
  split
  · next hentry => exact absurd hentry hfolder
  · rfl

end AtHome

/-! ### A single file -/

/-- A working directory that holds one file. -/
def oneFile (name text : String) : Tree :=
  { here := ["site"]
    entries := [(["site"], .folder), (["site", name], .file (Text.encodeUtf8 text.toList))] }

section

variable {text : String}

theorem atHome_oneFile (name text : String) : (oneFile name text).AtHome := by
  refine ⟨fun k hk => ?_, by simp [oneFile], by simp [oneFile, Text.NullFree]⟩
  match k, hk with
  | 0, _ => rfl
  | 1, _ => rfl

theorem at?_oneFile : (oneFile name text).at? ((oneFile name text).here ++ [name]) =
    some (.file (Text.encodeUtf8 text.toList)) := by
  simp [oneFile, at?, List.lookup_cons]

/-- The file is read as it was written, by its name and by its whole path. -/
theorem readText_oneFile (hname : name ≠ "..") (hnull : Text.NullFree name)
    (htext : '\r' ∉ text.toList) :
    (oneFile name text).readText ((oneFile name text).inHome [name]) = .ok text ∧
      (oneFile name text).readText ⟨.relative, [name]⟩ = .ok text := by
  obtain ⟨hfull, hshort⟩ := (atHome_oneFile name text).read_inHome hname hnull at?_oneFile
  rw [readText_of_read hfull, readText_of_read hshort, Text.unifyLineEnds_of_not_mem htext,
    String.ofList_toList]
  exact ⟨rfl, rfl⟩

end
end Files.Tree

namespace Config

open Files

/-! ## Looking for a configuration -/

theorem climb_of_noParents {names : List String} (h : ∀ n ∈ names, n ≠ "..") (before : List String) :
    Path.climb true before names = before.reverse ++ names := by
  induction names generalizing before with
  | nil => exact (List.append_nil before.reverse).symm
  | cons n names ih =>
    have hnext : Path.climb true before (n :: names) = Path.climb true (n :: before) names :=
      if_pos (h n List.mem_cons_self)
    rw [hnext, ih fun m hm => h m (List.mem_cons_of_mem n hm)]
    simp

theorem nullFree_names : ∀ n ∈ [".jinjaview", "config.yaml", "jinjaview.yaml"], Text.NullFree n := by
  simp [Text.NullFree]

variable {t : Tree}

/-- Where a configuration is written at first. -/
abbrev firstPlace (t : Tree) : List String := t.here ++ ["jinjaview.yaml"]

/-- Where the working directory has no hidden configuration, the one in the first place counts. -/
theorem locate_inHome (h : t.AtHome) (hhidden : t.at? (t.here ++ [".jinjaview", "config.yaml"]) = none) :
    locate t ⟨.relative, []⟩ =
      if (t.at? (firstPlace t)).isSome then some (t.inHome ["jinjaview.yaml"]) else none := by
  have hstart : (Path.absolute ⟨.absolute, t.here⟩ ⟨.relative, []⟩).names = t.here := by
    rw [Path.absolute, Path.append_relative, List.append_nil]
    exact climb_of_noParents h.noParents []
  have hnull := nullFree_names
  have hmissing : t.fileExists (t.inHome [".jinjaview", "config.yaml"]) = false :=
    h.fileExists_below (by decide) ⟨hnull _ (by simp), hnull _ (by simp)⟩ hhidden
  have hfirst : t.fileExists (t.inHome ["jinjaview.yaml"]) = (t.at? (firstPlace t)).isSome :=
    h.fileExists_inHome (by decide) (hnull _ (by simp))
  have hcandidates : candidates ⟨.absolute, t.here⟩ =
      [t.inHome [".jinjaview", "config.yaml"], t.inHome ["jinjaview.yaml"]] := by
    simp [candidates, Path.child, Tree.inHome]
  rw [locate, hstart, hcandidates, List.find?_cons, hmissing, List.find?_cons, hfirst,
    List.find?_nil]
  cases (t.at? (firstPlace t)).isSome <;> rfl

/-- What is loaded where the working directory has no hidden configuration and none is named. -/
theorem load_inHome (h : t.AtHome)
    (hhidden : t.at? (t.here ++ [".jinjaview", "config.yaml"]) = none) (env : List (String × String)) :
    load t env none true =
      if (t.at? (firstPlace t)).isSome then loadFrom t env (t.inHome ["jinjaview.yaml"])
      else .ok {} := by
  rw [load, if_pos rfl, locate_inHome h hhidden]
  cases (t.at? (firstPlace t)).isSome <;> rfl

theorem load_oneFile {name : String} (hname : name ≠ "jinjaview.yaml") (text : String)
    (env : List (String × String)) : load (.oneFile name text) env none true = .ok {} := by
  have hhidden : (Tree.oneFile name text).at?
      ((Tree.oneFile name text).here ++ [".jinjaview", "config.yaml"]) = none := by
    simp [Tree.oneFile, Tree.at?, List.lookup_cons]
  have hother : ("jinjaview.yaml" == name) = false := beq_eq_false_iff_ne.mpr hname.symm
  have hfirst : (Tree.oneFile name text).at? (firstPlace (Tree.oneFile name text)) = none := by
    simp [firstPlace, Tree.oneFile, Tree.at?, List.lookup_cons, hother]
  rw [load_inHome (Tree.atHome_oneFile name text) hhidden, hfirst]
  rfl

end Config

namespace CommandLine

open Files

/-! ## A page in the working directory -/

theorem existingFile_page (text : String) :
    existingFile (.oneFile "page.html" text) "page.html" = .ok (.ofText "page.html") := by
  have hpath : Path.ofText "page.html" = ⟨.relative, ["page.html"]⟩ := rfl
  have hnull : Text.NullFree "page.html" := by simp [Text.NullFree]
  have hsome : ((Tree.oneFile "page.html" text).at?
      ((Tree.oneFile "page.html" text).here ++ ["page.html"])).isSome = true := by
    rw [Tree.at?_oneFile, Option.isSome_some]
  obtain ⟨-, hplace⟩ := (Tree.atHome_oneFile "page.html" text).place_name (by decide) hnull hsome
  have hends : ¬ ("page.html".endsWith "/" = true ∨ "page.html".endsWith "/." = true) := by
    decide +kernel
  rw [existingFile, entryAt, if_neg (by simp), hpath, Tree.find?, hplace]
  dsimp only
  rw [Tree.at?_oneFile]
  dsimp only
  rw [if_neg hends]

theorem readText_page {text : String} (htext : '\r' ∉ text.toList) :
    (Tree.oneFile "page.html" text).readText (.ofText "/site/page.html") = .ok text ∧
      (Tree.oneFile "page.html" text).readText (.ofText "page.html") = .ok text :=
  Tree.readText_oneFile (by decide) (by simp [Text.NullFree]) htext

end CommandLine
end DeferredViews
