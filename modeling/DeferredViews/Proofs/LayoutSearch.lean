import DeferredViews.Proofs.Directories
import DeferredViews.Proofs.Precedence

/-!
# The search for a layout

A layout is looked for at one place below each view root: its name, with the extension of the page
if the name has none of its own. The first root that holds a file there wins, whatever stands at
the roots after it, and whatever but a file stands at those before it.
-/
namespace DeferredViews

namespace Text

theorem splitOn_append_sep {sep : Char → Bool} {c : Char} (hc : sep c = true) (s rest : List Char) :
    splitOn sep (s ++ c :: rest) = splitOn sep s ++ splitOn sep rest := by
  induction s with
  | nil =>
    rw [List.nil_append, splitOn, splitOn, if_pos hc]
    rfl
  | cons d s ih =>
    rw [List.cons_append, splitOn, splitOn, ih]
    by_cases hd : sep d = true
    · rw [if_pos hd, if_pos hd, List.cons_append]
    · rw [if_neg hd, if_neg hd]
      cases hs : splitOn sep s with
      | nil => exact absurd hs (splitOn_ne_nil sep s)
      | cons piece more => rfl

end Text

namespace Files

open Text

/-! ## Extensions of names -/

/-- A text that a last name can follow: an empty one, or one that ends with a slash. -/
def IsFolderText (s : List Char) : Prop := s = [] ∨ ∃ above, s = above ++ ['/']

theorem exists_folderText (s : List Char) :
    ∃ folder last, s = folder ++ last ∧ IsFolderText folder ∧ '/' ∉ last := by
  by_cases h : '/' ∈ s
  · obtain ⟨above, last, rfl, hlast⟩ := exists_last h
    exact ⟨above ++ ['/'], last, by simp, .inr ⟨above, rfl⟩, hlast⟩
  · exact ⟨[], s, rfl, .inl rfl, h⟩

theorem getLast?_splitOn_slash {folder last : List Char} (hfolder : IsFolderText folder)
    (hlast : '/' ∉ last) : (splitOn (· == '/') (folder ++ last)).getLast? = some last := by
  have hpiece : splitOn (· == '/') last = [last] :=
    splitOn_piece fun d hd => beq_eq_false_iff_ne.mpr fun hslash => hlast (hslash ▸ hd)
  rcases hfolder with rfl | ⟨above, rfl⟩
  · rw [List.nil_append, hpiece, List.getLast?_singleton]
  · rw [List.append_assoc, List.singleton_append, splitOn_append_sep (by rfl), hpiece,
      List.getLast?_concat]

/-- A name tells an extension if a character of its last part that is no point is followed by a
point. -/
def TellsExtension (name : String) : Prop :=
  ∃ before c rest, name.toList = before ++ c :: rest ∧ c ≠ '.' ∧ '/' ∉ c :: rest ∧ '.' ∈ rest

theorem extension_of_pointed {name : String} {folder stem tail : List Char}
    (hname : name.toList = folder ++ (stem ++ '.' :: tail)) (hfolder : IsFolderText folder)
    (hslash : '/' ∉ stem ++ '.' :: tail) (hlast : '.' ∉ tail) :
    extension name = if stem.all (· == '.') then "" else String.ofList ('.' :: tail) := by
  rw [extension, hname, getLast?_splitOn_slash hfolder hslash, Option.getD_some,
    lastIndexOf?_append hlast]
  dsimp only
  rw [List.take_left, List.drop_left]

theorem extension_of_pointless {name : String} {folder last : List Char}
    (hname : name.toList = folder ++ last) (hfolder : IsFolderText folder) (hslash : '/' ∉ last)
    (hpoint : '.' ∉ last) : extension name = "" := by
  rw [extension, hname, getLast?_splitOn_slash hfolder hslash, Option.getD_some,
    lastIndexOf?_of_notMem hpoint]

theorem tellsExtension_iff {name : String} : TellsExtension name ↔ extension name ≠ "" := by
  constructor
  · rintro ⟨before, c, rest, hname, hc, hslash, hpoint⟩
    obtain ⟨folder, first, rfl, hfolder, hfirst⟩ := exists_folderText before
    obtain ⟨stem, tail, rfl, hlast⟩ := exists_last hpoint
    have hwhole : name.toList = folder ++ ((first ++ c :: stem) ++ '.' :: tail) := by
      rw [hname]
      simp
    have hnone : '/' ∉ (first ++ c :: stem) ++ '.' :: tail := by
      simp only [List.append_assoc, List.cons_append, List.mem_append, not_or]
      exact ⟨hfirst, hslash⟩
    have hall : ¬ (first ++ c :: stem).all (· == '.') = true := by
      simp [hc]
    rw [extension_of_pointed hwhole hfolder hnone hlast, if_neg hall]
    simp
  · intro hne
    obtain ⟨folder, last, hname, hfolder, hslash⟩ := exists_folderText name.toList
    by_cases hpoint : '.' ∈ last
    · obtain ⟨stem, tail, rfl, hlast⟩ := exists_last hpoint
      rw [extension_of_pointed hname hfolder hslash hlast] at hne
      have hall : ¬ stem.all (· == '.') = true := fun hall => hne (if_pos hall)
      obtain ⟨c, hmem, hc⟩ : ∃ c ∈ stem, c ≠ '.' := by simpa using hall
      obtain ⟨first, more, rfl⟩ := List.append_of_mem hmem
      refine ⟨folder ++ first, c, more ++ '.' :: tail, ?_, hc, ?_, by simp⟩
      · rw [hname]
        simp
      · simp only [List.append_assoc, List.cons_append, List.mem_append, not_or] at hslash
        exact hslash.2
    · exact absurd (extension_of_pointless hname hfolder hslash hpoint) hne

instance (name : String) : Decidable (TellsExtension name) :=
  decidable_of_iff (extension name ≠ "") tellsExtension_iff.symm

/-! ## Texts of paths put together -/

/-- The text of a path that goes on from another: one that starts with a slash starts anew, any
other follows after one slash. -/
def joinedText (s t : String) : String :=
  if t.toList.head? = some '/' then t
  else if s = "" ∨ s.toList.getLast? = some '/' then s ++ t
  else s ++ "/" ++ t

namespace Path

theorem ofText_eq (s : String) : ofText s = ⟨rootOf s.toList, namesIn s.toList⟩ := rfl

theorem namesIn_append_slash (s t : List Char) :
    namesIn (s ++ '/' :: t) = namesIn s ++ namesIn t := by
  rw [namesIn, splitOn_append_sep (by rfl), List.filterMap_append]
  rfl

/-- What follows a text changes nothing about where its path starts, unless slashes meet. -/
theorem rootOf_append_of_apart {s t : List Char} (hs : s ≠ [])
    (h : s.getLast? ≠ some '/' ∨ t.head? ≠ some '/') : rootOf (s ++ t) = rootOf s := by
  match s, hs with
  | [a], _ =>
    by_cases ha : a = '/'
    · subst ha
      obtain hlast | hhead := h
      · exact absurd rfl hlast
      · cases t with
        | nil => rfl
        | cons b t =>
          have hb : b ≠ '/' := by simpa using hhead
          simp [rootOf, hb]
    · simp [rootOf, ha]
  | [a, b], _ =>
    by_cases ha : a = '/'
    · subst ha
      by_cases hb : b = '/'
      · subst hb
        obtain hlast | hhead := h
        · exact absurd rfl hlast
        · cases t with
          | nil => rfl
          | cons c t =>
            have hc : c ≠ '/' := by simpa using hhead
            simp [rootOf, hc]
      · simp [rootOf, hb]
    · simp [rootOf, ha]
  | a :: b :: c :: more, _ =>
    by_cases ha : a = '/' <;> by_cases hb : b = '/' <;> by_cases hc : c = '/' <;>
      simp [rootOf, ha, hb, hc]

theorem rootOf_of_head {s : List Char} (h : s.head? ≠ some '/') : rootOf s = .relative :=
  rootOf_append h .relative

theorem rootOf_ne_relative {s : List Char} (h : s.head? = some '/') : rootOf s ≠ .relative := by
  obtain ⟨more, rfl⟩ := List.head?_eq_some_iff.mp h
  rw [rootOf.eq_def]
  split <;> simp_all

/-- Going on along a path is reading the two texts put together. -/
theorem ofText_joinedText (s t : String) : ofText (joinedText s t) = ofText s ++ ofText t := by
  rw [joinedText]
  split
  · next hslash =>
    have hroot : (ofText t).root ≠ .relative := rootOf_ne_relative hslash
    exact (if_neg hroot).symm
  · next hslash =>
    have hroot : rootOf t.toList = .relative := rootOf_of_head hslash
    have happend : ofText s ++ ofText t =
        ⟨rootOf s.toList, namesIn s.toList ++ namesIn t.toList⟩ := if_pos hroot
    rw [happend]
    split
    · next hends =>
      rw [ofText_eq, String.toList_append]
      rcases hends with rfl | hends
      · rw [String.toList_empty, List.nil_append, hroot]
        rfl
      · obtain ⟨above, habove⟩ := List.getLast?_eq_some_iff.mp hends
        have hne : s.toList ≠ [] := by
          rw [habove]
          exact List.concat_ne_nil '/' above
        have hnames : namesIn (s.toList ++ t.toList) = namesIn s.toList ++ namesIn t.toList := by
          rw [habove, List.append_assoc, List.singleton_append, namesIn_append_slash,
            namesIn_append_slash]
          simp [namesIn, splitOn]
        rw [hnames, rootOf_append_of_apart hne (.inr hslash)]
    · next hends =>
      obtain ⟨hempty, hlast⟩ := not_or.mp hends
      have hne : s.toList ≠ [] := fun h => hempty (String.toList_eq_nil_iff.mp h)
      have htext : (s ++ "/" ++ t).toList = s.toList ++ '/' :: t.toList := by simp
      rw [ofText_eq, htext, namesIn_append_slash, rootOf_append_of_apart hne (.inl hlast)]

end Path

end Files

namespace View

open Files

/-! ## The first root that holds the file -/

/-- The file name that is looked for. -/
def candidate (name extension : String) : String :=
  if TellsExtension name then name else name ++ extension

theorem layoutFile_eq (name extension : String) :
    layoutFile name extension = candidate name extension := by
  by_cases h : TellsExtension name
  · rw [layoutFile, candidate, if_pos h, if_neg (by simpa using tellsExtension_iff.mp h)]
  · rw [layoutFile, candidate, if_neg h, if_pos (by simpa [tellsExtension_iff] using h)]

/-- The view roots that a setting lists: none if it is unset, one, or several in order. -/
inductive ListsRoots : Value → List String → Prop
  | unset {views : Value} (hfalse : views.truthy = false) : ListsRoots views []
  | one {views : Value} {root : String} (htrue : views.truthy = true)
      (htext : views.text? = some root) : ListsRoots views [root]
  | several {views : Value} {items : List Value} {roots : List String}
      (hviews : views = .list items ∨ views = .tuple items)
      (htexts : items.map Value.text? = roots.map some) : ListsRoots views roots

theorem mapM_pathOf_of_texts {items : List Value} {roots : List String}
    (h : items.map Value.text? = roots.map some) :
    items.mapM pathOf = .ok (roots.map Path.ofText) := by
  induction items generalizing roots with
  | nil =>
    obtain rfl : roots = [] := by simpa using h.symm
    rfl
  | cons item items ih =>
    cases roots with
    | nil => cases h
    | cons root roots =>
      obtain ⟨hitem, hitems⟩ := List.cons.inj h
      have hpath : pathOf item = .ok (.ofText root) := by
        rw [pathOf, hitem]
      rw [List.mapM_cons, hpath, ih hitems]
      rfl

theorem ListsRoots.viewRoots_eq {views : Value} {roots : List String} (h : ListsRoots views roots) :
    viewRoots views = .ok (roots.map Path.ofText) := by
  cases h with
  | unset hfalse =>
    unfold viewRoots
    rw [hfalse]
    rfl
  | one htrue htext =>
    unfold viewRoots
    rw [htrue]
    cases views <;> cases htext <;> rfl
  | @several items _ hviews htexts =>
    have hmap := mapM_pathOf_of_texts htexts
    cases items with
    | nil =>
      obtain rfl : roots = [] := by simpa using htexts.symm
      rcases hviews with rfl | rfl <;> rfl
    | cons item items => rcases hviews with rfl | rfl <;> exact hmap

/-- Where a layout of a name is looked for below a root. -/
def layoutPlace (name extension root : String) : Path :=
  .ofText (joinedText root (candidate name extension))

/-- A root wins a search after others: a file stands at its place, and nothing or a directory at
theirs. -/
structure Wins (files : Tree) (place : String → Path) (before : List String) (root : String) :
    Prop where
  file : ∃ bytes, files.find? (place root) = some (.file bytes)
  earlier : ∀ r ∈ before, files.find? (place r) = none ∨ files.find? (place r) = some .folder

theorem isFile_iff {files : Tree} {p : Path} :
    files.isFile p = true ↔ ∃ bytes, files.find? p = some (.file bytes) := by
  rw [Tree.isFile]
  split <;> simp_all

theorem isFile_eq_false_iff {files : Tree} {p : Path} :
    files.isFile p = false ↔ files.find? p = none ∨ files.find? p = some .folder := by
  rw [Tree.isFile]
  cases files.find? p with
  | none => simp
  | some e => cases e <;> simp

theorem searchRoots_eq (files : Tree) (name extension : String) (roots : List String) :
    searchRoots files (.ofText (layoutFile name extension)) (roots.map Path.ofText) =
      (roots.map (layoutPlace name extension)).find? files.isFile := by
  have hplaces : roots.map ((· ++ Path.ofText (candidate name extension)) ∘ Path.ofText) =
      roots.map (layoutPlace name extension) :=
    List.map_congr_left fun root _ => (Path.ofText_joinedText root (candidate name extension)).symm
  rw [searchRoots, List.map_map, layoutFile_eq, hplaces]

section Outcomes

variable (files : Tree) (name extension : String) {views : Value} {roots : List String}

theorem findLayout_ok (hviews : ListsRoots views roots) :
    ∃ record, findLayout files name views extension =
      .ok ((roots.map (layoutPlace name extension)).find? files.isFile, record) := by
  rw [findLayout, hviews.viewRoots_eq]
  dsimp only [bind, Except.bind]
  rw [searchRoots_eq]
  cases (roots.map (layoutPlace name extension)).find? files.isFile <;> exact ⟨_, rfl⟩

/-- The outcome of a search tells the first file at the places below the roots. -/
theorem findLayout_iff (hviews : ListsRoots views roots) {found : Option Path} :
    (∃ record, findLayout files name views extension = .ok (found, record)) ↔
      (roots.map (layoutPlace name extension)).find? files.isFile = found := by
  obtain ⟨record, hrecord⟩ := findLayout_ok files name extension hviews
  rw [hrecord]
  constructor
  · rintro ⟨record', h⟩
    cases h
    rfl
  · rintro rfl
    exact ⟨record, rfl⟩

/-- What is noted about a layout that is found does not depend on the roots. -/
theorem findLayout_found (hviews : ListsRoots views roots) {path : Path}
    (h : (roots.map (layoutPlace name extension)).find? files.isFile = some path) :
    findLayout files name views extension = .ok (some path, Log.debug Log.layoutLogger
      ("Resolved layout " ++ Text.quoted name ++ " to " ++ path.text)) := by
  rw [findLayout, hviews.viewRoots_eq]
  dsimp only [bind, Except.bind]
  rw [searchRoots_eq, h]

end Outcomes

section Searching

variable {files : Tree} {place : String → Path} {before : List String} {root : String}

theorem Wins.mono {fewer : List String} (h : Wins files place before root)
    (hsubset : ∀ r ∈ fewer, r ∈ before) : Wins files place fewer root :=
  ⟨h.file, fun r hr => h.earlier r (hsubset r hr)⟩

theorem Wins.find? (h : Wins files place before root) (after : List String) :
    ((before ++ root :: after).map place).find? files.isFile = some (place root) := by
  rw [List.map_append, List.find?_append, List.map_cons,
    List.find?_cons_of_pos (isFile_iff.mpr h.file)]
  have hnone : (before.map place).find? files.isFile = none := by
    rw [List.find?_eq_none]
    intro path hpath
    obtain ⟨r, hr, rfl⟩ := List.mem_map.mp hpath
    simpa using isFile_eq_false_iff.mpr (h.earlier r hr)
  rw [hnone, Option.none_or]

theorem exists_wins_of_find? {roots : List String} {path : Path}
    (h : (roots.map place).find? files.isFile = some path) :
    ∃ before root after, roots = before ++ root :: after ∧ Wins files place before root ∧
      path = place root := by
  obtain ⟨hfile, earlier, later, hplaces, hearlier⟩ := List.find?_eq_some_iff_append.mp h
  obtain ⟨before, rest, rfl, rfl, hrest⟩ := List.map_eq_append_iff.mp hplaces
  obtain ⟨root, after, rfl, rfl, rfl⟩ := List.map_eq_cons_iff.mp hrest
  refine ⟨before, root, after, rfl, ⟨isFile_iff.mp hfile, fun r hr => ?_⟩, rfl⟩
  exact isFile_eq_false_iff.mp (by simpa using hearlier (place r) (List.mem_map_of_mem hr))

/-- Roots apart from the one that wins may be left out. -/
theorem Wins.find?_eraseIdx (h : Wins files place before root) (after : List String) {i : ℕ}
    (hi : i ≠ before.length) :
    (((before ++ root :: after).eraseIdx i).map place).find? files.isFile =
      some (place root) := by
  rcases Nat.lt_or_gt_of_ne hi with hlt | hgt
  · rw [List.eraseIdx_append_of_lt_length hlt]
    exact (h.mono fun r hr => List.mem_of_mem_eraseIdx hr).find? after
  · obtain ⟨k, rfl⟩ := Nat.exists_eq_add_of_lt hgt
    rw [List.eraseIdx_append_of_length_le (by omega)]
    have hk : before.length + k + 1 - before.length = k + 1 := by omega
    rw [hk, List.eraseIdx_cons_succ]
    exact h.find? _

end Searching

/-- The search for a layout looks at one place below each root, in the order of the roots: at the
name itself if it tells an extension, else at the name with the extension of the page. It finds the
place of the first root that has a file there, past roots where nothing or a directory stands, and
nothing exactly if no root has one. What it finds stays the same when roots are added at the end,
and when one is left out that does not win. -/
theorem findLayout_first_match (files : Tree) (name extension : String) {views : Value}
    {roots : List String} (hviews : ListsRoots views roots) :
    (∀ path, (∃ record, findLayout files name views extension = .ok (some path, record)) ↔
        ∃ before root after, roots = before ++ root :: after ∧
          Wins files (layoutPlace name extension) before root ∧
          path = layoutPlace name extension root) ∧
      ((∃ record, findLayout files name views extension = .ok (none, record)) ↔
        ∀ root ∈ roots, files.find? (layoutPlace name extension root) = none ∨
          files.find? (layoutPlace name extension root) = some .folder) ∧
      (∃ outcome, findLayout files name views extension = .ok outcome) ∧
      ∀ path record, findLayout files name views extension = .ok (some path, record) →
        (∀ more views', ListsRoots views' (roots ++ more) →
          findLayout files name views' extension = .ok (some path, record)) ∧
        ∀ before root after, roots = before ++ root :: after →
          Wins files (layoutPlace name extension) before root → ∀ i, i ≠ before.length →
          ∀ views', ListsRoots views' (roots.eraseIdx i) →
            findLayout files name views' extension = .ok (some path, record) := by
  refine ⟨fun path => ?_, ?_, ?_, fun path record h => ?_⟩
  · rw [findLayout_iff files name extension hviews]
    refine ⟨exists_wins_of_find?, ?_⟩
    rintro ⟨before, root, after, rfl, hwins, rfl⟩
    exact hwins.find? after
  · rw [findLayout_iff files name extension hviews, List.find?_eq_none]
    simp only [List.forall_mem_map, Bool.not_eq_true, isFile_eq_false_iff]
  · obtain ⟨record, hrecord⟩ := findLayout_ok files name extension hviews
    exact ⟨_, hrecord⟩
  · have hfind := (findLayout_iff files name extension hviews).mp ⟨record, h⟩
    rw [findLayout_found files name extension hviews hfind] at h
    constructor
    · intro more views' hmore
      rw [← h]
      refine findLayout_found files name extension hmore ?_
      rw [List.map_append, List.find?_append, hfind, Option.some_or]
    · rintro before root after rfl hwins i hi views' hfewer
      rw [← h]
      refine findLayout_found files name extension hfewer ?_
      rw [hwins.find?_eraseIdx after hi, ← hwins.find? after, hfind]

/-- Three roots: a directory stands at the layout's place in the first, nothing in the second, and
a file in the third. -/
def threeRoots : Tree :=
  ((⟨[], []⟩ : Tree).putFolders ["a", "parts.d", "layout.html"]).withFile
    ["c", "parts.d", "layout.html"] []

theorem find?_threeRoots :
    threeRoots.find? (layoutPlace "parts.d/layout" ".html" "a") = some .folder ∧
      threeRoots.find? (layoutPlace "parts.d/layout" ".html" "b") = none ∧
      threeRoots.find? (layoutPlace "parts.d/layout" ".html" "c") = some (.file []) := by
  simp only [Tree.find?, Tree.place_eq]
  decide +kernel

theorem findLayout_past_folder :
    ListsRoots (.list [.str "a", .str "b", .str "c"]) ["a", "b", "c"] ∧
      ∃ record, findLayout threeRoots "parts.d/layout" (.list [.str "a", .str "b", .str "c"])
        ".html" = .ok (some ⟨.relative, ["c", "parts.d", "layout.html"]⟩, record) := by
  have hviews : ListsRoots (.list [.str "a", .str "b", .str "c"]) ["a", "b", "c"] :=
    .several (.inl rfl) rfl
  obtain ⟨hfolder, hnothing, hfile⟩ := find?_threeRoots
  have hwins : Wins threeRoots (layoutPlace "parts.d/layout" ".html") ["a", "b"] "c" :=
    ⟨⟨[], hfile⟩, by simp [hfolder, hnothing]⟩
  refine ⟨hviews, ?_⟩
  exact ((findLayout_first_match threeRoots "parts.d/layout" ".html" hviews).1 _).mpr
    ⟨["a", "b"], "c", [], rfl, hwins, by decide +kernel⟩

end View
end DeferredViews
