import DeferredViews.Proofs.Registration
import Mathlib.Data.List.Nodup
import Mathlib.Data.List.Sort
import Mathlib.Data.String.Basic

/-!
# The registration of a directory

A registration is about the template files of its directory: the files directly in it whose last
suffix is an accepted extension. Those that can be read become partials, in the order of their
paths, a later file winning over an earlier one of the same partial name; those that cannot be read
are reported, and only then. A registration that succeeds has read every template file, but a
source stays in the registry only if no later file took its partial name.
-/
namespace DeferredViews.Text

theorem lastIndexOf?_append {c : Char} {s t : List Char} (ht : c ∉ t) :
    lastIndexOf? c (s ++ c :: t) = some s.length := by
  have hrest : (t.reverse ++ c :: s.reverse).findIdx? (· == c) = some t.length := by
    have hnone : t.reverse.findIdx? (· == c) = none := by
      rw [List.findIdx?_eq_none_iff]
      intro d hd
      exact beq_eq_false_iff_ne.mpr fun hdc => ht (hdc ▸ List.mem_reverse.mp hd)
    rw [List.findIdx?_append, hnone, List.findIdx?_cons]
    simp
  rw [lastIndexOf?]
  simp only [List.reverse_append, List.reverse_cons, List.append_assoc, List.singleton_append]
  rw [hrest]
  simp only [Option.map_some, List.length_append, List.length_cons, Option.some.injEq]
  omega

theorem lastIndexOf?_of_notMem {c : Char} {s : List Char} (hs : c ∉ s) :
    lastIndexOf? c s = none := by
  rw [lastIndexOf?, Option.map_eq_none_iff, List.findIdx?_eq_none_iff]
  intro d hd
  exact beq_eq_false_iff_ne.mpr fun hdc => hs (hdc ▸ List.mem_reverse.mp hd)

/-- The last place of a character in a text. -/
theorem exists_last {c : Char} {s : List Char} (h : c ∈ s) :
    ∃ before after, s = before ++ c :: after ∧ c ∉ after := by
  obtain ⟨before, after, hreverse, hlast⟩ := List.eq_append_cons_of_mem (List.mem_reverse.mpr h)
  refine ⟨after.reverse, before.reverse, ?_, fun hmem => hlast (List.mem_reverse.mp hmem)⟩
  rw [← List.reverse_reverse s, hreverse]
  simp

end DeferredViews.Text

namespace DeferredViews.View

open Files Text

/-! ## Extensions -/

/-- The extension that a file name has: what follows its last point, in lower case, if something
stands on both sides of that point, and else nothing. -/
inductive HasExtension : List Char → String → Prop
  | parted {stem tail : List Char} (hstem : stem ≠ []) (htail : tail ≠ []) (hlast : '.' ∉ tail) :
      HasExtension (stem ++ '.' :: tail) (String.ofList (lower tail))
  | hidden {tail : List Char} (hlast : '.' ∉ tail) : HasExtension ('.' :: tail) ""
  | pointed {stem : List Char} : HasExtension (stem ++ ['.']) ""
  | plain {name : List Char} (hnone : '.' ∉ name) : HasExtension name ""

theorem normalExtension_suffix {p : Path} {extension : String}
    (h : HasExtension p.name.toList extension) : normalExtension p.suffix = extension := by
  rw [Path.suffix]
  generalize p.name.toList = name at h ⊢
  cases h with
  | @parted stem tail hstem htail hlast =>
    have hstart : suffixStart? (stem ++ '.' :: tail) = some stem.length := by
      rw [suffixStart?, lastIndexOf?_append hlast]
      have hbefore : 0 < stem.length := List.length_pos_iff.mpr hstem
      have hafter : 0 < tail.length := List.length_pos_iff.mpr htail
      simp only [List.length_append, List.length_cons]
      rw [if_pos (by omega)]
    simp only [hstart, List.drop_left, normalExtension, String.toList_ofList]
    have hdrop : tail.dropWhile (· == '.') = tail := by
      cases tail with
      | nil => rfl
      | cons c more =>
        exact List.dropWhile_cons_of_neg fun hc =>
          hlast (beq_iff_eq.mp hc ▸ List.mem_cons_self)
    rw [List.dropWhile_cons_of_pos (by rfl), hdrop]
  | @hidden tail hlast =>
    have hstart : suffixStart? ('.' :: tail) = none := by
      rw [suffixStart?, ← List.nil_append ('.' :: tail), lastIndexOf?_append hlast]
      simp
    simp only [hstart]
    rfl
  | @pointed stem =>
    have hstart : suffixStart? (stem ++ ['.']) = none := by
      rw [suffixStart?, lastIndexOf?_append (List.not_mem_nil)]
      simp
    simp only [hstart]
    rfl
  | plain hnone =>
    have hstart : suffixStart? name = none := by
      rw [suffixStart?, lastIndexOf?_of_notMem hnone]
    simp only [hstart]
    rfl

/-- Every file name has an extension. -/
theorem exists_hasExtension (name : List Char) : ∃ extension, HasExtension name extension := by
  by_cases hpoint : '.' ∈ name
  · obtain ⟨stem, tail, rfl, hlast⟩ := exists_last hpoint
    by_cases hstem : stem = []
    · rw [hstem]
      exact ⟨"", .hidden hlast⟩
    by_cases htail : tail = []
    · rw [htail]
      exact ⟨"", .pointed⟩
    exact ⟨_, .parted hstem htail hlast⟩
  · exact ⟨"", .plain hpoint⟩

theorem hasExtension_iff {p : Path} {extension : String} :
    HasExtension p.name.toList extension ↔ normalExtension p.suffix = extension := by
  refine ⟨normalExtension_suffix, ?_⟩
  rintro rfl
  obtain ⟨extension, h⟩ := exists_hasExtension p.name.toList
  exact normalExtension_suffix h ▸ h

/-! ## The template files of a directory -/

/-- The template files of a directory, in the order of their paths. -/
def templateFiles (files : Tree) (extensions : List String) (directory : Path) : List Path :=
  match listing files directory with
  | .ok paths => paths.filter (isTemplateFile files extensions)
  | .error _ => []

/-- A path is a template file of a directory: a file that stands directly in it and has one of the
extensions. -/
def IsTemplateOf (files : Tree) (extensions : List String) (directory p : Path) : Prop :=
  ∃ place name entry, files.place directory = .ok place ∧ files.at? place = some .folder ∧
    (place ++ [name], entry) ∈ files.entries ∧ p = directory.child name ∧ files.isFile p ∧
    ∃ extension ∈ extensions, HasExtension name.toList extension

@[simp] theorem name_child (directory : Path) (name : String) :
    (directory.child name).name = name := by
  rw [Path.child, Path.name, List.getLast?_concat]
  rfl

theorem child_injective (directory : Path) : Function.Injective directory.child := by
  intro a b hab
  rw [← name_child directory a, hab, name_child]

/-- A directory that can be listed stands at a place, and holds the last names of the entries
directly below that place. -/
theorem list_cases {files : Tree} {directory : Path} {names : List String}
    (hlist : files.list directory = .ok names) :
    ∃ place, files.place directory = .ok place ∧ files.at? place = some .folder ∧
      names = (files.entries.filterMap fun (q, _) =>
        if q ≠ [] ∧ q.dropLast = place then q.getLast? else none).mergeSort
          fun a b => decide (a ≤ b) := by
  rw [Tree.list] at hlist
  cases hplace : files.place directory with
  | error fault => rw [hplace] at hlist; cases hlist
  | ok place =>
    rw [hplace] at hlist
    dsimp only at hlist
    split at hlist
    · next hfolder => exact ⟨place, rfl, hfolder, (Except.ok.inj hlist).symm⟩
    · cases hlist
    · cases hlist

theorem getLast?_below {q place : List String} {name : String} :
    (if q ≠ [] ∧ q.dropLast = place then q.getLast? else none) = some name ↔
      q = place ++ [name] := by
  constructor
  · intro h
    split at h
    · next hq =>
      obtain ⟨init, rfl⟩ := List.getLast?_eq_some_iff.mp h
      rw [← hq.2, List.dropLast_concat]
    · cases h
  · rintro rfl
    simp

theorem mem_list {files : Tree} {directory : Path} {names : List String}
    (hlist : files.list directory = .ok names) (name : String) :
    name ∈ names ↔ ∃ place entry, files.place directory = .ok place ∧
      files.at? place = some .folder ∧ (place ++ [name], entry) ∈ files.entries := by
  obtain ⟨place, hplace, hfolder, hnames⟩ := list_cases hlist
  rw [hnames, List.mem_mergeSort, List.mem_filterMap]
  constructor
  · rintro ⟨⟨q, entry⟩, hmem, hlast⟩
    exact ⟨place, entry, hplace, hfolder, getLast?_below.mp hlast ▸ hmem⟩
  · rintro ⟨place', entry, hplace', -, hmem⟩
    obtain rfl : place = place' := Except.ok.inj (hplace.symm.trans hplace')
    exact ⟨(place ++ [name], entry), hmem, getLast?_below.mpr rfl⟩

theorem list_sorted {files : Tree} {directory : Path} {names : List String}
    (hlist : files.list directory = .ok names) : names.Pairwise (· ≤ ·) := by
  obtain ⟨place, -, -, hnames⟩ := list_cases hlist
  rw [hnames]
  exact List.pairwise_mergeSort' _ _

theorem list_nodup {files : Tree} {directory : Path} {names : List String}
    (hdistinct : (files.entries.map (·.1)).Nodup) (hlist : files.list directory = .ok names) :
    names.Nodup := by
  obtain ⟨place, -, -, hnames⟩ := list_cases hlist
  rw [hnames, (List.mergeSort_perm _ _).nodup_iff]
  have hbelow : (files.entries.filterMap fun (q, _) =>
      if q ≠ [] ∧ q.dropLast = place then q.getLast? else none) =
      (files.entries.map (·.1)).filterMap fun q =>
        if q ≠ [] ∧ q.dropLast = place then q.getLast? else none := by
    rw [List.filterMap_map]
    rfl
  rw [hbelow]
  refine hdistinct.filterMap fun q q' name hq hq' => ?_
  rw [getLast?_below.mp hq, getLast?_below.mp hq']

/-- What `templateFiles` holds: the template files, each once, in the order of their names. -/
structure Lists (files : Tree) (extensions : List String) (directory : Path)
    (paths : List Path) : Prop where
  mem_iff : ∀ p, p ∈ paths ↔ IsTemplateOf files extensions directory p
  sorted : paths.Pairwise fun p q => p.name ≤ q.name
  nodup : (files.entries.map (·.1)).Nodup → paths.Nodup

theorem templateFiles_eq {files : Tree} {extensions : List String} {directory : Path}
    {names : List String} (hlist : files.list directory = .ok names) :
    templateFiles files extensions directory =
      (names.map directory.child).filter (isTemplateFile files extensions) := by
  rw [templateFiles, listing, hlist]
  rfl

theorem templateFiles_of_unlisted {files : Tree} {directory : Path} {err : FileError}
    (extensions : List String) (hlist : files.list directory = .error err) :
    templateFiles files extensions directory = [] := by
  rw [templateFiles, listing, hlist]
  rfl

theorem isTemplateFile_child_iff {files : Tree} {extensions : List String} {directory : Path}
    {name : String} :
    isTemplateFile files extensions (directory.child name) ↔
      files.isFile (directory.child name) ∧
        ∃ extension ∈ extensions, HasExtension name.toList extension := by
  rw [isTemplateFile, Bool.and_eq_true, List.contains_iff_mem]
  refine and_congr_right fun _ => ?_
  constructor
  · intro hmem
    refine ⟨_, hmem, ?_⟩
    rw [← name_child directory name, hasExtension_iff, name_child]
  · rintro ⟨extension, hmem, hname⟩
    rw [← name_child directory name] at hname
    exact normalExtension_suffix hname ▸ hmem

theorem mem_templateFiles {files : Tree} {extensions : List String} {directory : Path} (p : Path) :
    p ∈ templateFiles files extensions directory ↔ IsTemplateOf files extensions directory p := by
  cases hlist : files.list directory with
  | error err =>
    rw [templateFiles_of_unlisted extensions hlist]
    refine iff_of_false List.not_mem_nil ?_
    rintro ⟨place, name, entry, hplace, hfolder, -⟩
    rw [Tree.list, hplace] at hlist
    dsimp only at hlist
    rw [hfolder] at hlist
    cases hlist
  | ok names =>
    rw [templateFiles_eq hlist, List.mem_filter, List.mem_map]
    constructor
    · rintro ⟨⟨name, hname, rfl⟩, haccepted⟩
      obtain ⟨place, entry, hplace, hfolder, hentry⟩ := (mem_list hlist name).mp hname
      exact ⟨place, name, entry, hplace, hfolder, hentry, rfl,
        isTemplateFile_child_iff.mp haccepted⟩
    · rintro ⟨place, name, entry, hplace, hfolder, hentry, rfl, haccepted⟩
      exact ⟨⟨name, (mem_list hlist name).mpr ⟨place, entry, hplace, hfolder, hentry⟩, rfl⟩,
        isTemplateFile_child_iff.mpr haccepted⟩

theorem lists_templateFiles (files : Tree) (extensions : List String) (directory : Path) :
    Lists files extensions directory (templateFiles files extensions directory) where
  mem_iff := mem_templateFiles
  sorted := by
    cases hlist : files.list directory with
    | error err =>
      rw [templateFiles_of_unlisted extensions hlist]
      exact .nil
    | ok names =>
      rw [templateFiles_eq hlist]
      refine (List.pairwise_map.mpr ?_).filter _
      simpa only [name_child] using list_sorted hlist
  nodup := by
    intro hdistinct
    cases hlist : files.list directory with
    | error err =>
      rw [templateFiles_of_unlisted extensions hlist]
      exact .nil
    | ok names =>
      rw [templateFiles_eq hlist]
      exact ((list_nodup hdistinct hlist).map (child_injective directory)).filter _

/-- A template file that cannot be read is a file whose bytes are no text. -/
theorem undecodable_of_isFile {files : Tree} {p : Path} {err : ReadError}
    (hfile : files.isFile p) (hread : files.readText p = .error err) : ∃ e, err = .decode e := by
  rw [Tree.isFile, Tree.find?] at hfile
  rw [Tree.readText, Tree.read] at hread
  cases hplace : files.place p with
  | error fault =>
    rw [hplace] at hfile
    cases hfile
  | ok place =>
    rw [hplace] at hfile hread
    dsimp only at hfile hread
    cases hat : files.at? place with
    | none => rw [hat] at hfile; cases hfile
    | some entry =>
      cases entry with
      | folder => rw [hat] at hfile; cases hfile
      | file bytes =>
        rw [hat] at hread
        dsimp only at hread
        cases hdecode : decodeUtf8 bytes with
        | error e =>
          rw [hdecode] at hread
          exact ⟨e, (Except.error.inj hread).symm⟩
        | ok text => rw [hdecode] at hread; cases hread

/-! ## Readable files and others -/

/-- The files that cannot be read, in order, each with its fault. -/
def unreadable (files : Tree) (paths : List Path) : List (String × Fault) :=
  paths.filterMap fun p =>
    match files.readText p with
    | .ok _ => none
    | .error err => some (p.text, .unreadable err)

/-- The partials of the files that can be read, in order. -/
def readable (files : Tree) (paths : List Path) : List (String × String) :=
  paths.filterMap fun p =>
    match files.readText p with
    | .ok source => some (partialName p, source)
    | .error _ => none

theorem mem_readable {files : Tree} {paths : List Path} {x : String × String} :
    x ∈ readable files paths ↔
      ∃ p ∈ paths, files.readText p = .ok x.2 ∧ x.1 = partialName p := by
  obtain ⟨name, source⟩ := x
  rw [readable, List.mem_filterMap]
  refine exists_congr fun p => and_congr_right fun _ => ?_
  cases files.readText p with
  | ok text => simp [and_comm, eq_comm]
  | error err => simp

theorem harvest_eq (files : Tree) (paths : List Path) :
    harvest files paths = ⟨readable files paths, unreadable files paths⟩ := by
  induction paths with
  | nil => rfl
  | cons p more ih =>
    rw [harvest, ih]
    cases hread : files.readText p with
    | ok source => simp only [readable, unreadable, List.filterMap_cons, hread]
    | error err => simp only [readable, unreadable, List.filterMap_cons, hread]

theorem partialsIn_eq (files : Tree) (extensions : List String) (directory : Path) :
    partialsIn files extensions directory =
      readable files (templateFiles files extensions directory) := by
  rw [partialsIn, templateFiles]
  cases listing files directory with
  | error err => rfl
  | ok paths => exact congrArg Harvest.sources (harvest_eq files _)

theorem unreadable_eq_nil_iff {files : Tree} {paths : List Path} :
    unreadable files paths = [] ↔ ∀ p ∈ paths, ∃ source, files.readText p = .ok source := by
  rw [unreadable, List.filterMap_eq_nil_iff]
  refine forall₂_congr fun p _ => ?_
  cases files.readText p with
  | ok source => simp
  | error err => simp

/-- What cannot be read among the template files of a directory is no text. -/
theorem decode_of_mem_unreadable {files : Tree} {extensions : List String} {directory : Path}
    {x : String × Fault}
    (hx : x ∈ unreadable files (templateFiles files extensions directory)) :
    ∃ bad, x.2 = .unreadable (.decode bad) := by
  obtain ⟨p, hp, hfault⟩ := List.mem_filterMap.mp hx
  obtain ⟨-, -, -, -, -, -, -, hfile, -⟩ := (mem_templateFiles p).mp hp
  cases hread : files.readText p with
  | ok source => rw [hread] at hfault; cases hfault
  | error err =>
    rw [hread] at hfault
    obtain ⟨bad, rfl⟩ := undecodable_of_isFile hfile hread
    exact ⟨bad, congrArg Prod.snd (Option.some.inj hfault).symm⟩

theorem readable_names {files : Tree} {paths : List Path}
    (hall : ∀ p ∈ paths, ∃ source, files.readText p = .ok source) :
    (readable files paths).map (·.1) = paths.map partialName := by
  induction paths with
  | nil => rfl
  | cons p more ih =>
    obtain ⟨source, hread⟩ := hall p List.mem_cons_self
    rw [readable, List.filterMap_cons]
    simp only [hread, List.map_cons]
    rw [← ih fun q hq => hall q (List.mem_cons_of_mem p hq), readable]

/-- One registry is another one with the sources of the files that can be read, taken in order, a
later file winning over an earlier one of the same partial name. -/
structure Updated (files : Tree) (paths : List Path) (old new : String → Option String) : Prop where
  latest : ∀ earlier p later source,
    paths = earlier ++ p :: later → files.readText p = .ok source →
    (∀ q ∈ later, partialName q = partialName p → ∃ err, files.readText q = .error err) →
    new (partialName p) = some source
  kept : ∀ name, (∀ p ∈ paths, partialName p = name → ∃ err, files.readText p = .error err) →
    new name = old name

theorem lookup_readable_eq_none {files : Tree} {paths : List Path} {name : String}
    (h : ∀ p ∈ paths, partialName p = name → ∃ err, files.readText p = .error err) :
    (readable files paths).reverse.lookup name = none := by
  rw [List.lookup_eq_none_iff]
  intro x hx
  obtain ⟨p, hp, hread, hname⟩ := mem_readable.mp (List.mem_reverse.mp hx)
  rw [bne_iff_ne]
  intro hsame
  obtain ⟨err, herr⟩ := h p hp (hname.symm.trans hsame.symm)
  rw [hread] at herr
  cases herr

theorem updated_setPartials (d : Engine) (files : Tree) (paths : List Path) :
    Updated files paths (d.partials.lookup ·)
      ((d.setPartials (readable files paths)).partials.lookup ·) where
  latest := by
    intro earlier p later source hpaths hread hlater
    have hsplit : readable files paths =
        readable files earlier ++ (partialName p, source) :: readable files later := by
      rw [hpaths, readable, List.filterMap_append, List.filterMap_cons]
      simp only [hread]
      rfl
    rw [lookup_setPartials, hsplit, List.reverse_append, List.reverse_cons, List.append_assoc,
      List.lookup_append, lookup_readable_eq_none hlater, Option.none_or, List.singleton_append,
      List.lookup_cons_self]
    rfl
  kept := by
    intro name hnone
    rw [lookup_setPartials, lookup_readable_eq_none hnone, Option.none_or]

/-! ## Registrations -/

/-- Why a directory cannot be listed. -/
def listingStop (directory : Path) (err : FileError) : Stop :=
  if directory.names.any (·.contains '\x00') then .fault (.value "embedded null byte")
  else .failure (.partials directory.text []
    ("Cannot list partials directory " ++ directory.text ++ ": " ++ err.message)
    (some (.unreadable (.file err))))

theorem registerPartials_unlisted {directory : Path} {s : Site} {err : FileError} (e : Nat)
    (hlist : s.files.list directory = .error err) :
    registerPartials e directory s = (.error (listingStop directory err), s) := by
  rw [listingStop]
  by_cases hnull : directory.names.any (·.contains '\x00') = true
  · rw [if_pos hnull, registerPartials_of_null e hnull]
  · rw [if_neg hnull, registerPartials_of_unlisted e hnull (by rw [listing, hlist]; rfl)]

theorem registerPartials_listed {directory : Path} {s : Site} {names : List String} (e : Nat)
    (hlist : s.files.list directory = .ok names) :
    (registerPartials e directory s).1 =
      (harvest s.files (templateFiles s.files (s.engine e).partialExtensions directory)).answer
        directory := by
  have hpaths : listing s.files directory = .ok (names.map directory.child) := by
    rw [listing, hlist]
    rfl
  have hnull : ¬directory.names.any (·.contains '\x00') = true := by
    intro hnull
    obtain ⟨place, hplace, -⟩ := list_cases hlist
    rw [Tree.place, if_pos hnull] at hplace
    cases hplace
  obtain ⟨log, hrun⟩ := registerPartials_of_listed e hnull hpaths
  rw [hrun, templateFiles, hpaths]

/-- A registration that has read all its files answers with their partial names in order. -/
theorem answer_ok_iff {files : Tree} {directory : Path} {paths : List Path} {names : List String} :
    (harvest files paths).answer directory = .ok names ↔
      (∀ p ∈ paths, ∃ source, files.readText p = .ok source) ∧
        names = (paths.map partialName).mergeSort fun a b => decide (a ≤ b) := by
  rw [harvest_eq, Harvest.answer, ← unreadable_eq_nil_iff]
  constructor
  · intro h
    split at h
    · next hnone =>
      have hnone : unreadable files paths = [] := List.isEmpty_iff.mp hnone
      refine ⟨hnone, ?_⟩
      rw [← readable_names (unreadable_eq_nil_iff.mp hnone)]
      exact (Except.ok.inj h).symm
    · cases h
  · rintro ⟨hnone, rfl⟩
    rw [if_pos (List.isEmpty_iff.mpr hnone), readable_names (unreadable_eq_nil_iff.mp hnone)]

theorem answer_of_unreadable {files : Tree} {directory : Path} {paths : List Path}
    (hsome : unreadable files paths ≠ []) :
    (harvest files paths).answer directory =
      .error (.failure (.ofFailures directory.text (unreadable files paths) none)) := by
  rw [harvest_eq, Harvest.answer, if_neg fun hnone => hsome (List.isEmpty_iff.mp hnone)]

/-- The registry after a registration, however it ends: the template files that can be read have
updated it, and nothing else of the site but the log has changed. -/
theorem updated_registerPartials {e : Nat} {s : Site} (he : e < s.engines.length)
    (directory : Path) :
    Updated s.files (templateFiles s.files (s.engine e).partialExtensions directory)
        ((s.engine e).partials.lookup ·)
        (((registerPartials e directory s).2.engine e).partials.lookup ·) ∧
      ∃ partials log, (registerPartials e directory s).2 =
        { s.setEngine e { s.engine e with partials } with log } := by
  obtain ⟨log, hsite⟩ := registerPartials_site e directory s
  rw [partialsIn_eq] at hsite
  refine ⟨?_, _, log, hsite.trans (by rw [setPartials_eq])⟩
  have hengine : (registerPartials e directory s).2.engine e =
      (s.engine e).setPartials
        (readable s.files (templateFiles s.files (s.engine e).partialExtensions directory)) := by
    rw [hsite]
    exact s.engine_setEngine_self e _ he
  rw [hengine]
  exact updated_setPartials _ _ _

/-- The registration of a directory, whether it succeeds or not. The template files are the files
directly in the directory with an accepted extension, in the order of their names; those that can
be read update the registry, a later one winning, and nothing else changes but the log. If all can
be read, the answer is their partial names in order; otherwise it is a failure with exactly the
files that cannot be read, which are no text, in order and each with its error. A directory that
cannot be listed gives an error and changes nothing. -/
theorem registerPartials_ends {e : Nat} {s : Site} (he : e < s.engines.length) (directory : Path) :
    let paths := templateFiles s.files (s.engine e).partialExtensions directory
    Lists s.files (s.engine e).partialExtensions directory paths ∧
      Updated s.files paths ((s.engine e).partials.lookup ·)
        (((registerPartials e directory s).2.engine e).partials.lookup ·) ∧
      (∃ partials log, (registerPartials e directory s).2 =
        { s.setEngine e { s.engine e with partials } with log }) ∧
      (∀ err, s.files.list directory = .error err →
        registerPartials e directory s = (.error (listingStop directory err), s)) ∧
      ∀ listed, s.files.list directory = .ok listed →
        ((∀ p ∈ paths, ∃ source, s.files.readText p = .ok source) →
          ∃ names, (registerPartials e directory s).1 = .ok names ∧
            names.Pairwise (· ≤ ·) ∧ names.Perm (paths.map partialName)) ∧
        ((∃ p ∈ paths, ∃ err, s.files.readText p = .error err) →
          (registerPartials e directory s).1 =
              .error (.failure (.ofFailures directory.text (unreadable s.files paths) none)) ∧
            ∀ x ∈ unreadable s.files paths, ∃ bad, x.2 = .unreadable (.decode bad)) := by
  intro paths
  obtain ⟨hupdated, hsite⟩ := updated_registerPartials he directory
  refine ⟨lists_templateFiles _ _ _, hupdated, hsite, fun err hlist =>
    registerPartials_unlisted e hlist, fun listed hlist => ?_⟩
  have hanswer := registerPartials_listed e hlist
  constructor
  · intro hall
    exact ⟨_, hanswer.trans (answer_ok_iff.mpr ⟨hall, rfl⟩), List.pairwise_mergeSort' _ _,
      List.mergeSort_perm _ _⟩
  · rintro ⟨p, hp, err, hread⟩
    refine ⟨hanswer.trans (answer_of_unreadable fun hnone => ?_), ?_⟩
    · obtain ⟨source, hsource⟩ := unreadable_eq_nil_iff.mp hnone p hp
      rw [hread] at hsource
      cases hsource
    · exact fun x hx => decode_of_mem_unreadable hx

/-- A directory with two files whose names differ in a hyphen and an underscore, and others. -/
def navigations (others : List (List String × Entry)) : Site :=
  { files :=
      ⟨[(["p"], .folder), (["p", "my-nav.html"], .file (encodeUtf8 "old".toList)),
        (["p", "my_nav.html"], .file (encodeUtf8 "new".toList))] ++ others, []⟩
    engines := [{ cache := 0, partialExtensions := defaultExtensions }]
    caches := [⟨[]⟩]
    options := []
    activity := { ids := fun _ => "0" } }

def navigationDirectory : Path := ⟨.relative, ["p"]⟩

/-- A name of the directory as a path. -/
def navigation (name : String) : Path := ⟨.relative, ["p", name]⟩

theorem partialExtensions_navigations (others : List (List String × Entry)) :
    ((navigations others).engine 0).partialExtensions = defaultExtensions := rfl

/-- A template file that is no text. -/
def tornFile : List (List String × Entry) := [(["p", "torn.hbs"], .file [255])]

theorem list_tornFile : (navigations tornFile).files.list navigationDirectory =
    .ok ["my-nav.html", "my_nav.html", "torn.hbs"] := by
  have hsorted : ["my-nav.html", "my_nav.html", "torn.hbs"].mergeSort (fun a b => decide (a ≤ b)) =
      ["my-nav.html", "my_nav.html", "torn.hbs"] := List.mergeSort_of_pairwise (by decide)
  rw [Tree.list, Tree.place_eq]
  exact congrArg Except.ok hsorted

theorem templateFiles_tornFile :
    templateFiles (navigations tornFile).files defaultExtensions navigationDirectory =
      [navigation "my-nav.html", navigation "my_nav.html", navigation "torn.hbs"] := by
  rw [templateFiles_eq list_tornFile]
  simp only [List.map_cons, List.map_nil, List.filter, isTemplateFile, Tree.isFile, Tree.find?,
    Tree.place_eq]
  rfl

theorem readText_torn : (navigations tornFile).files.readText (navigation "torn.hbs") =
    .error (.decode ⟨0, [255], .badStart⟩) := by
  rw [Tree.readText, Tree.read, Tree.place_eq]
  rfl

theorem readText_old (others : List (List String × Entry)) :
    (navigations others).files.readText (navigation "my-nav.html") = .ok "old" := by
  rw [Tree.readText, Tree.read, Tree.place_eq]
  rfl

theorem readText_new (others : List (List String × Entry)) :
    (navigations others).files.readText (navigation "my_nav.html") = .ok "new" := by
  rw [Tree.readText, Tree.read, Tree.place_eq]
  rfl

/-- A file that is no text is reported, and the other files are registered. -/
theorem registerPartials_ends_of_torn_file :
    (registerPartials 0 navigationDirectory (navigations tornFile)).1 =
        .error (.failure (.ofFailures navigationDirectory.text
          (unreadable (navigations tornFile).files
            [navigation "my-nav.html", navigation "my_nav.html", navigation "torn.hbs"]) none)) ∧
      ((registerPartials 0 navigationDirectory (navigations tornFile)).2.engine 0).partials.lookup
        (partialName (navigation "my_nav.html")) = some "new" := by
  have hends := registerPartials_ends (s := navigations tornFile) (e := 0) (by decide)
    navigationDirectory
  rw [partialExtensions_navigations, templateFiles_tornFile] at hends
  obtain ⟨-, hupdated, -, -, hlisted⟩ := hends
  constructor
  · exact ((hlisted _ list_tornFile).2 ⟨navigation "torn.hbs",
      List.mem_cons_of_mem _ (List.mem_cons_of_mem _ List.mem_cons_self), _, readText_torn⟩).1
  · refine hupdated.latest [navigation "my-nav.html"] _ [navigation "torn.hbs"] "new" rfl
      (readText_new tornFile) fun q hq _ => ?_
    rw [List.mem_singleton.mp hq]
    exact ⟨_, readText_torn⟩

/-! ## What a successful registration keeps -/

theorem names_of_ok {e : Nat} {s : Site} {directory : Path} {names : List String}
    (hok : (registerPartials e directory s).1 = .ok names) :
    (∀ p ∈ templateFiles s.files (s.engine e).partialExtensions directory,
        ∃ source, s.files.readText p = .ok source) ∧
      names = ((templateFiles s.files (s.engine e).partialExtensions directory).map
        partialName).mergeSort fun a b => decide (a ≤ b) := by
  cases hlist : s.files.list directory with
  | error err => rw [registerPartials_unlisted e hlist] at hok; cases hok
  | ok listed => exact answer_ok_iff.mp ((registerPartials_listed e hlist).symm.trans hok)

/-- After a registration that succeeds every template file has been read, and the names in the
answer are those of the files, a name as often as there are files that have it. A source is in the
registry under its partial name exactly if the last file of that name has the same text; so every
source is there if no two files share a name, which is when no name is listed twice. -/
theorem kept_of_registered {e : Nat} {s : Site} (he : e < s.engines.length) {directory : Path}
    {names : List String} (hok : (registerPartials e directory s).1 = .ok names) :
    let paths := templateFiles s.files (s.engine e).partialExtensions directory
    let registry := ((registerPartials e directory s).2.engine e).partials
    (∀ p ∈ paths, ∃ source, s.files.readText p = .ok source) ∧
      names.Pairwise (· ≤ ·) ∧ names.Perm (paths.map partialName) ∧
      (∀ earlier p later, paths = earlier ++ p :: later →
        (∀ q ∈ later, partialName q ≠ partialName p) →
        ∀ q ∈ paths, partialName q = partialName p → ∀ source, s.files.readText q = .ok source →
          (registry.lookup (partialName q) = some source ↔ s.files.readText p = .ok source)) ∧
      (names.Nodup → ∀ p ∈ paths, ∀ source, s.files.readText p = .ok source →
        registry.lookup (partialName p) = some source) := by
  intro paths registry
  obtain ⟨hall, hnames⟩ := names_of_ok hok
  have hperm : names.Perm (paths.map partialName) := hnames ▸ List.mergeSort_perm _ _
  obtain ⟨hupdated, -⟩ := updated_registerPartials he directory
  refine ⟨hall, hnames ▸ List.pairwise_mergeSort' _ _, hperm, ?_, ?_⟩
  · intro earlier p later hpaths hlater q hq hname source hread
    have hp : p ∈ paths := hpaths ▸ List.mem_append_right _ List.mem_cons_self
    obtain ⟨last, hlast⟩ := hall p hp
    have hlookup : registry.lookup (partialName p) = some last :=
      hupdated.latest earlier p later last hpaths hlast fun r hr hsame => absurd hsame (hlater r hr)
    rw [hname, hlookup, hlast, Option.some.injEq, Except.ok.injEq]
  · intro hnodup p hp source hread
    obtain ⟨earlier, later, hpaths⟩ := List.append_of_mem hp
    refine hupdated.latest earlier p later source hpaths hread fun q hq hsame => ?_
    have hdistinct : (paths.map partialName).Nodup := hperm.nodup_iff.mp hnodup
    rw [hpaths, List.map_append, List.map_cons, List.nodup_append, List.nodup_cons] at hdistinct
    exact absurd (hsame ▸ List.mem_map_of_mem hq) hdistinct.2.1.1

theorem list_twoNavigations : (navigations []).files.list navigationDirectory =
    .ok ["my-nav.html", "my_nav.html"] := by
  have hsorted : ["my-nav.html", "my_nav.html"].mergeSort (fun a b => decide (a ≤ b)) =
      ["my-nav.html", "my_nav.html"] := List.mergeSort_of_pairwise (by decide)
  rw [Tree.list, Tree.place_eq]
  exact congrArg Except.ok hsorted

theorem templateFiles_twoNavigations :
    templateFiles (navigations []).files defaultExtensions navigationDirectory =
      [navigation "my-nav.html", navigation "my_nav.html"] := by
  rw [templateFiles_eq list_twoNavigations]
  simp only [List.map_cons, List.map_nil, List.filter, isTemplateFile, Tree.isFile, Tree.find?,
    Tree.place_eq]
  rfl

/-- Both files have one partial name. -/
theorem partialName_twoNavigations : partialName (navigation "my-nav.html") = "my_nav" ∧
    partialName (navigation "my_nav.html") = "my_nav" := by
  decide +kernel

theorem registerPartials_twoNavigations :
    (registerPartials 0 navigationDirectory (navigations [])).1 = .ok ["my_nav", "my_nav"] := by
  have hnames : ["my_nav", "my_nav"].mergeSort (fun a b => decide (a ≤ b)) = ["my_nav", "my_nav"] :=
    List.mergeSort_of_pairwise (by decide)
  rw [registerPartials_listed 0 list_twoNavigations, answer_ok_iff, partialExtensions_navigations,
    templateFiles_twoNavigations]
  refine ⟨fun p hp => ?_, ?_⟩
  · rcases List.mem_pair.mp hp with rfl | rfl
    · exact ⟨_, readText_old []⟩
    · exact ⟨_, readText_new []⟩
  · rw [List.map_cons, List.map_cons, List.map_nil, partialName_twoNavigations.1,
      partialName_twoNavigations.2, hnames]

/-- A registration that succeeds and lists one name twice: of the two sources the first one is
lost. -/
theorem lost_of_two_navigations :
    (registerPartials 0 navigationDirectory (navigations [])).1 = .ok ["my_nav", "my_nav"] ∧
      navigation "my-nav.html" ∈
        templateFiles (navigations []).files defaultExtensions navigationDirectory ∧
      (navigations []).files.readText (navigation "my-nav.html") = .ok "old" ∧
      partialName (navigation "my-nav.html") = "my_nav" ∧
      ((registerPartials 0 navigationDirectory (navigations [])).2.engine 0).partials.lookup
        "my_nav" = some "new" := by
  obtain ⟨hupdated, -⟩ := updated_registerPartials (s := navigations []) (e := 0) (by decide)
    navigationDirectory
  rw [partialExtensions_navigations, templateFiles_twoNavigations] at hupdated
  have hlookup := hupdated.latest [navigation "my-nav.html"] (navigation "my_nav.html") [] "new" rfl
    (readText_new []) nofun
  rw [partialName_twoNavigations.2] at hlookup
  rw [templateFiles_twoNavigations]
  exact ⟨registerPartials_twoNavigations, List.mem_cons_self, readText_old [],
    partialName_twoNavigations.1, hlookup⟩

theorem kept_of_two_navigations :
    ((registerPartials 0 navigationDirectory (navigations [])).2.engine 0).partials.lookup
      (partialName (navigation "my-nav.html")) = some "new" := by
  have hkept := kept_of_registered (by decide) registerPartials_twoNavigations
  rw [partialExtensions_navigations, templateFiles_twoNavigations] at hkept
  have hlast := hkept.2.2.2.1 [navigation "my-nav.html"] (navigation "my_nav.html") [] rfl nofun
    (navigation "my_nav.html") (List.mem_cons_of_mem _ List.mem_cons_self) rfl "new"
    (readText_new [])
  rw [partialName_twoNavigations.1, ← partialName_twoNavigations.2]
  exact hlast.mpr (readText_new [])

end DeferredViews.View
