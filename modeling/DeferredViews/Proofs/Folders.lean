import DeferredViews.Files.Tree
import Mathlib.Data.List.Basic

/-!
# What writing a file changes

A directory is made together with those above it that are missing, and a file is written into a
directory that is there. Both leave everything else as it was: what is new are the directories on
the way, and the file. Where a path led before, it leads afterwards.
-/
namespace DeferredViews

/-- A text without null characters. -/
def Text.NullFree (s : String) : Prop := '\x00' ∉ s.toList

namespace Files

/-- A path without null characters. -/
def Path.NullFree (p : Path) : Prop := ∀ n ∈ p.names, Text.NullFree n

theorem Path.NullFree.parent {p : Path} (h : p.NullFree) : p.parent.NullFree :=
  fun n hn => h n (List.dropLast_subset _ hn)

namespace Tree

variable {t u v : Tree} {p : Path} {q dir : List String} {bytes : List Nat}

/-- A tree in which every directory of an earlier one is a directory still, and something stands
wherever something stood. -/
structure Extends (t u : Tree) : Prop where
  here : u.here = t.here
  folder : ∀ q, t.at? q = some .folder → u.at? q = some .folder
  present : ∀ q, (t.at? q).isSome = true → (u.at? q).isSome = true

namespace Extends

theorem refl (t : Tree) : Extends t t := ⟨rfl, fun _ h => h, fun _ h => h⟩

theorem trans (h : Extends t u) (k : Extends u v) : Extends t v :=
  ⟨k.here.trans h.here, fun q hq => k.folder q (h.folder q hq),
    fun q hq => k.present q (h.present q hq)⟩

/-- Anything may be put where no directory stands. -/
theorem put (e : Entry) (h : t.at? q ≠ some .folder) : Extends t (t.put q e) := by
  have hroot : q ≠ [] := by
    rintro rfl
    exact h rfl
  refine ⟨t.here_put q e, fun p hp => ?_, fun p hp => ?_⟩
  · have hne : p ≠ q := by
      rintro rfl
      exact h hp
    rw [t.at?_put_of_ne e hne, hp]
  · by_cases hpq : p = q
    · subst hpq
      rw [t.at?_put_self p e hroot]
      rfl
    · rw [t.at?_put_of_ne e hpq, hp]

theorem walk (h : Extends t u) {names : List String} (hwalk : t.walk dir names = .ok q) :
    u.walk dir names = .ok q := by
  induction names generalizing dir with
  | nil => exact hwalk
  | cons n more ih =>
    rw [Tree.walk] at hwalk ⊢
    cases hdir : t.at? dir with
    | none =>
      rw [hdir] at hwalk
      cases hwalk
    | some e =>
      cases e with
      | file b =>
        rw [hdir] at hwalk
        cases hwalk
      | folder =>
        rw [hdir] at hwalk
        rw [h.folder dir hdir]
        dsimp only at hwalk ⊢
        by_cases hup : n = ".."
        · rw [if_pos hup] at hwalk ⊢
          exact ih hwalk
        · rw [if_neg hup] at hwalk ⊢
          cases hnext : t.at? (dir ++ [n]) with
          | none =>
            rw [hnext] at hwalk
            cases hwalk
          | some e =>
            rw [hnext] at hwalk
            have hpresent := h.present (dir ++ [n]) (by rw [hnext]; rfl)
            obtain ⟨e', he'⟩ := Option.isSome_iff_exists.mp hpresent
            rw [he']
            exact ih hwalk

/-- A path leads where it led before. -/
theorem place (h : Extends t u) (hplace : t.place p = .ok q) : u.place p = .ok q := by
  rw [Tree.place] at hplace ⊢
  by_cases hnull : (p.names.any fun n => n.contains '\x00') = true
  · rw [if_pos hnull] at hplace
    cases hplace
  · rw [if_neg hnull] at hplace ⊢
    rw [h.here]
    exact h.walk hplace

end Extends

/-! ## The last name of a path -/

/-- Where a name leads from a directory. -/
def target (dir : List String) (name : String) : List String :=
  if name = ".." then dir.dropLast else dir ++ [name]

theorem walk_append (t : Tree) (dir names more : List String) :
    t.walk dir (names ++ more) = (t.walk dir names).bind fun q => t.walk q more := by
  induction names generalizing dir with
  | nil => rfl
  | cons n names ih =>
    rw [List.cons_append, Tree.walk, Tree.walk]
    cases t.at? dir with
    | none => rfl
    | some e =>
      cases e with
      | file b => rfl
      | folder =>
        dsimp only
        by_cases hup : n = ".."
        · rw [if_pos hup, if_pos hup, ih]
        · rw [if_neg hup, if_neg hup]
          cases t.at? (dir ++ [n]) with
          | none => rfl
          | some e => exact ih _

theorem walk_target {name : String} (hdir : t.at? dir = some .folder)
    (htarget : (t.at? (target dir name)).isSome = true) :
    t.walk dir [name] = .ok (target dir name) := by
  rw [Tree.walk, hdir]
  dsimp only
  rw [target] at htarget ⊢
  by_cases hup : name = ".."
  · rw [if_pos hup, if_pos hup]
    rfl
  · rw [if_neg hup] at htarget ⊢
    rw [if_neg hup]
    obtain ⟨e, he⟩ := Option.isSome_iff_exists.mp htarget
    rw [he]
    rfl

theorem place_target {name : String} (hnull : p.NullFree) (hlast : p.names.getLast? = some name)
    (hparent : t.place p.parent = .ok dir) (hdir : t.at? dir = some .folder)
    (htarget : (t.at? (target dir name)).isSome = true) : t.place p = .ok (target dir name) := by
  have hnames : p.names = p.parent.names ++ [name] := by
    exact (List.dropLast_append_getLast? name hlast).symm
  have hfree : ∀ r : Path, r.NullFree →
      ¬ (r.names.any fun n => decide ('\x00' ∈ n.toList)) = true := by
    intro r hr hany
    obtain ⟨n, hn, hmem⟩ := List.any_eq_true.mp hany
    exact hr n hn (of_decide_eq_true hmem)
  rw [Tree.place_eq, if_neg (hfree _ hnull.parent)] at hparent
  rw [Tree.place_eq, if_neg (hfree _ hnull), hnames, walk_append]
  change t.walk (if p.root = .relative then t.here else []) p.parent.names = .ok dir at hparent
  rw [hparent]
  exact walk_target hdir htarget

/-! ## Writing a file -/

theorem write_ok (h : t.write p bytes = .ok u) :
    ∃ dir name, p.names.getLast? = some name ∧ t.place p.parent = .ok dir ∧
      t.at? dir = some .folder ∧ t.at? (target dir name) ≠ some .folder ∧
      u = t.put (target dir name) (.file bytes) := by
  rw [Tree.write] at h
  cases hlast : p.names.getLast? with
  | none =>
    rw [hlast] at h
    cases h
  | some name =>
    rw [hlast] at h
    cases hparent : t.place p.parent with
    | error fault =>
      rw [hparent] at h
      cases h
    | ok dir =>
      rw [hparent] at h
      dsimp only at h
      cases hdir : t.at? dir with
      | none =>
        rw [hdir] at h
        cases h
      | some e =>
        cases e with
        | file b =>
          rw [hdir] at h
          cases h
        | folder =>
          rw [hdir] at h
          dsimp only at h
          rw [← target] at h
          split at h
          · cases h
          · next hfolder => exact ⟨dir, name, rfl, rfl, hdir, hfolder, (Except.ok.inj h).symm⟩

/-- A file that was written is there, under its path, and nothing else has changed. -/
theorem write_spec (hnull : p.NullFree) (h : t.write p bytes = .ok u) :
    ∃ q, u.place p = .ok q ∧ u.at? q = some (.file bytes) ∧ Extends t u ∧
      ∀ r, r ≠ q → u.at? r = t.at? r := by
  obtain ⟨dir, name, hlast, hparent, hdir, hfolder, rfl⟩ := write_ok h
  have hroot : target dir name ≠ [] := by
    intro hroot
    rw [hroot] at hfolder
    exact hfolder rfl
  have hextends : Extends t (t.put (target dir name) (.file bytes)) := .put _ hfolder
  have hfile := t.at?_put_self (target dir name) (.file bytes) hroot
  have hplace := place_target hnull hlast (hextends.place hparent) (hextends.folder dir hdir)
    (hfile ▸ rfl)
  exact ⟨_, hplace, hfile, hextends, fun r hr => t.at?_put_of_ne _ hr⟩

/-! ## Making directories -/

/-- A directory where nothing stood, to which a path or one above it leads. -/
structure MadeOnTheWay (t u : Tree) (p : Path) (q : List String) : Prop where
  missing : t.at? q = none
  made : u.at? q = some .folder
  leads : ∃ k ≤ p.names.length, u.place ⟨p.root, p.names.take k⟩ = .ok q

/-- What has changed between two trees are directories that were made on the way to a path. -/
structure Grows (t u : Tree) (p : Path) : Prop where
  later : Extends t u
  frame : ∀ q, u.at? q = t.at? q ∨ MadeOnTheWay t u p q

namespace Grows

theorem refl (t : Tree) (p : Path) : Grows t t p := ⟨.refl t, fun _ => .inl rfl⟩

theorem trans (h : Grows t u p) (k : Grows u v p) : Grows t v p := by
  refine ⟨h.later.trans k.later, fun q => ?_⟩
  rcases k.frame q with hsame | hmade
  · rcases h.frame q with hsame' | ⟨hmissing, hfolder, n, hn, hplace⟩
    · exact .inl (hsame.trans hsame')
    · exact .inr ⟨hmissing, hsame.trans hfolder, n, hn, k.later.place hplace⟩
  · rcases h.frame q with hsame' | hmade'
    · exact .inr ⟨hsame'.symm.trans hmade.missing, hmade.made, hmade.leads⟩
    · exact absurd (hmade.missing.symm.trans hmade'.made) nofun

/-- What lies on the way to the directory of a path lies on the way to the path. -/
theorem ofParent (h : Grows t u p.parent) : Grows t u p := by
  refine ⟨h.later, fun q => ?_⟩
  rcases h.frame q with hsame | ⟨hmissing, hfolder, k, hk, hplace⟩
  · exact .inl hsame
  · have hlength : p.parent.names.length = p.names.length - 1 := List.length_dropLast
    have htake : p.parent.names.take k = p.names.take k := by
      show p.names.dropLast.take k = p.names.take k
      rw [List.dropLast_eq_take, List.take_take, Nat.min_eq_left (hlength ▸ hk)]
    have hpath : (⟨p.parent.root, p.parent.names.take k⟩ : Path) = ⟨p.root, p.names.take k⟩ :=
      congrArg (Path.mk p.root) htake
    exact .inr ⟨hmissing, hfolder, k, by omega, hpath ▸ hplace⟩

end Grows

theorem makeFolder_grows (hnull : p.NullFree) (h : t.makeFolder p = .ok u) : Grows t u p := by
  rw [makeFolder] at h
  cases hlast : p.names.getLast? with
  | none =>
    rw [hlast] at h
    cases h
  | some name =>
    rw [hlast] at h
    cases hparent : t.place p.parent with
    | error fault =>
      rw [hparent] at h
      cases h
    | ok dir =>
      rw [hparent] at h
      dsimp only at h
      cases hdir : t.at? dir with
      | none =>
        rw [hdir] at h
        cases h
      | some e =>
        cases e with
        | file b =>
          rw [hdir] at h
          cases h
        | folder =>
          rw [hdir] at h
          dsimp only at h
          split at h
          · cases h
          · next hnew =>
            obtain ⟨hdown, hmissing⟩ := not_or.mp hnew
            have hnone : t.at? (dir ++ [name]) = none := by simpa using hmissing
            have htarget : target dir name = dir ++ [name] := if_neg hdown
            obtain rfl := (Except.ok.inj h).symm
            have hextends : Extends t (t.put (dir ++ [name]) .folder) :=
              .put _ fun hfolder => nomatch hnone.symm.trans hfolder
            have hmade := t.at?_put_self (dir ++ [name]) .folder (by simp)
            have hplace := place_target hnull hlast (hextends.place hparent)
              (hextends.folder dir hdir) (by rw [htarget, hmade]; rfl)
            refine ⟨hextends, fun q => ?_⟩
            by_cases hq : q = dir ++ [name]
            · subst hq
              refine .inr ⟨hnone, hmade, p.names.length, Nat.le_refl _, ?_⟩
              rw [List.take_length]
              exact hplace.trans (congrArg Except.ok htarget)
            · exact .inl (t.at?_put_of_ne _ hq)

/-- What changes when a directory is made are directories on the way to it. -/
theorem makeFolders_grows {depth : Nat} (hnull : p.NullFree) (h : t.makeFolders depth p = .ok u) :
    Grows t u p := by
  induction depth generalizing p u with
  | zero => cases h
  | succ depth ih =>
    rw [makeFolders] at h
    split at h
    · next hmade =>
      obtain rfl := Except.ok.inj h
      exact makeFolder_grows hnull hmade
    · split at h
      · cases habove : t.makeFolders depth p.parent with
        | error e =>
          rw [habove] at h
          cases h
        | ok w =>
          rw [habove] at h
          have hgrown : Grows t w p := (ih hnull.parent habove).ofParent
          dsimp only [bind, Except.bind] at h
          split at h
          · next hmade =>
            obtain rfl := Except.ok.inj h
            exact hgrown.trans (makeFolder_grows hnull hmade)
          · split at h
            · obtain rfl := Except.ok.inj h
              exact hgrown
            · cases h
      · split at h
        · obtain rfl := Except.ok.inj h
          exact .refl t p
        · cases h

/-- A file was written under a path, and nothing else has changed but for directories made on the
way to it. -/
structure Receives (t u : Tree) (p : Path) (bytes : List Nat) : Prop where
  holds : u.read p = .ok bytes
  frame : ∃ q, u.place p = .ok q ∧ ∀ r, r ≠ q → u.at? r = t.at? r ∨ MadeOnTheWay t u p.parent r
  here : u.here = t.here

theorem Grows.receives (h : Grows t u p.parent) (hnull : p.NullFree)
    (hwrite : u.write p bytes = .ok v) : Receives t v p bytes := by
  obtain ⟨q, hplace, hfile, hextends, hframe⟩ := write_spec hnull hwrite
  refine ⟨?_, ⟨q, hplace, fun r hr => ?_⟩, hextends.here.trans h.later.here⟩
  · rw [read, hplace]
    dsimp only
    rw [hfile]
  · rcases h.frame r with hsame | ⟨hmissing, hfolder, k, hk, hleads⟩
    · exact .inl ((hframe r hr).trans hsame)
    · exact .inr ⟨hmissing, (hframe r hr).trans hfolder, k, hk, hextends.place hleads⟩

end Tree
end Files
end DeferredViews
