import DeferredViews.Proofs.Parts
import DeferredViews.View.Partials

/-!
# What a directory of partials leaves behind

However the registration of a directory ends, the files that could be read are partials of the
engine afterwards, and but for the log nothing else of the site has changed. The engine, its cache
and what it counted are the same.
-/
namespace DeferredViews.View

open Files

/-- Several sources become partials, one after the other. -/
def Engine.setPartials (d : Engine) (sources : List (String × String)) : Engine :=
  sources.foldl (fun d (name, source) => d.setPartial name source) d

/-- The partials that the readable template files of a directory give, in the order of the files. -/
def partialsIn (files : Tree) (extensions : List String) (directory : Path) :
    List (String × String) :=
  match listing files directory with
  | .ok paths => (harvest files (paths.filter (isTemplateFile files extensions))).sources
  | .error _ => []

theorem setPartials_eq (d : Engine) (sources : List (String × String)) :
    d.setPartials sources =
      { d with partials := sources.foldl (fun l (name, source) => bindName name source l) d.partials } := by
  induction sources generalizing d with
  | nil => rfl
  | cons x more ih => exact ih (d.setPartial x.1 x.2)

/-- Of several sources for a name, the last one counts. -/
theorem lookup_setPartials (d : Engine) (sources : List (String × String)) (name : String) :
    (d.setPartials sources).partials.lookup name =
      (sources.reverse.lookup name).or (d.partials.lookup name) := by
  induction sources generalizing d with
  | nil => rfl
  | cons x more ih =>
    obtain ⟨n, source⟩ := x
    have hstep : d.setPartials ((n, source) :: more) = (d.setPartial n source).setPartials more := rfl
    rw [hstep, ih, List.reverse_cons, List.lookup_append, Engine.setPartial]
    cases more.reverse.lookup name with
    | some found => rfl
    | none =>
      rw [Option.none_or, Option.none_or]
      by_cases hname : name = n
      · subst hname
        rw [lookup_bindName_self, List.lookup_cons, beq_self_eq_true]
        rfl
      · have hbeq : (name == n) = false := beq_eq_false_iff_ne.mpr hname
        rw [lookup_bindName_of_ne _ _ hname, List.lookup_cons, hbeq, List.lookup_nil]
        rfl

/-- Notes on some of several things leave only the log changed. -/
theorem notesOn_apply {α : Type} (p : α → Bool) (record : α → Log.Record) (xs : List α) (s : Site) :
    ∃ log, (forIn xs PUnit.unit fun x _ =>
      if p x = true then pure (ForInStep.yield PUnit.unit)
      else do
        note (record x)
        pure (ForInStep.yield PUnit.unit) : Work PUnit) s = (.ok PUnit.unit, { s with log }) := by
  induction xs generalizing s with
  | nil => exact ⟨s.log, rfl⟩
  | cons x more ih =>
    rw [List.forIn_cons, bind_apply]
    by_cases hx : p x = true
    · rw [if_pos hx]
      exact ih s
    · rw [if_neg hx]
      obtain ⟨log, hlog⟩ := ih (s.note (record x))
      exact ⟨log, hlog⟩

/-! ## What a registration comes to -/

section

variable {directory : Path} {s : Site} (e : Nat)

/-- No place has a null character in its names, so there is nothing to list. -/
theorem partialsIn_of_null (files : Tree) (extensions : List String)
    (hnull : directory.names.any (·.contains '\x00') = true) :
    partialsIn files extensions directory = [] := by
  have hplace : files.place directory = .error .missing := by
    rw [Tree.place, if_pos hnull]
  rw [partialsIn, listing, Tree.list, hplace]
  rfl

theorem registerPartials_of_null (hnull : directory.names.any (·.contains '\x00') = true) :
    registerPartials e directory s = (.error (.fault (.value "embedded null byte")), s) := by
  rw [registerPartials, bind_apply, get_apply]
  dsimp only
  rw [if_pos hnull]
  rfl

theorem registerPartials_of_unlisted {err : FileError}
    (hnull : ¬directory.names.any (·.contains '\x00') = true)
    (hlist : listing s.files directory = .error err) :
    registerPartials e directory s =
      (.error (.failure (.partials directory.text []
        ("Cannot list partials directory " ++ directory.text ++ ": " ++ err.message)
        (some (.unreadable (.file err))))), s) := by
  rw [registerPartials, bind_apply, get_apply]
  dsimp only
  rw [if_neg hnull, hlist]
  rfl

/-- The answer of a registration that has read the files: the names in order if all could be
read, else the failures. -/
def Harvest.answer (directory : Path) (found : Harvest) : Except Stop (List String) :=
  if found.failures.isEmpty then
    .ok ((found.sources.map (·.1)).mergeSort fun a b => decide (a ≤ b))
  else .error (.failure (.ofFailures directory.text found.failures none))

theorem registerPartials_of_listed {paths : List Path}
    (hnull : ¬directory.names.any (·.contains '\x00') = true)
    (hlist : listing s.files directory = .ok paths) :
    ∃ log, registerPartials e directory s =
      ((harvest s.files
          (paths.filter (isTemplateFile s.files (s.engine e).partialExtensions))).answer directory,
        { s.setEngine e ((s.engine e).setPartials
          (partialsIn s.files (s.engine e).partialExtensions directory)) with log }) := by
  obtain ⟨log, hnotes⟩ := notesOn_apply (isTemplateFile s.files (s.engine e).partialExtensions)
    (fun p => Log.debug Log.engineLogger ("Skipping non-template file " ++ p.text)) paths s
  rw [registerPartials, bind_apply, get_apply, partialsIn]
  dsimp only
  rw [if_neg hnull, hlist]
  dsimp only
  rw [bind_apply, hnotes]
  dsimp only
  generalize harvest s.files _ = found
  rw [bind_apply, Harvest.answer]
  by_cases hfailures : found.failures.isEmpty = true
  · simp only [if_pos hfailures]
    exact ⟨_, rfl⟩
  · simp only [if_neg hfailures]
    exact ⟨_, rfl⟩

end

theorem registerPartials_site (e : Nat) (directory : Path) (s : Site) :
    ∃ log, (registerPartials e directory s).2 =
      { s.setEngine e ((s.engine e).setPartials
        (partialsIn s.files (s.engine e).partialExtensions directory)) with log } := by
  have hnone : s.setEngine e ((s.engine e).setPartials []) = s := s.setEngine_engine e
  by_cases hnull : directory.names.any (·.contains '\x00') = true
  · rw [registerPartials_of_null e hnull, partialsIn_of_null s.files _ hnull]
    exact ⟨s.log, hnone.symm⟩
  cases hlist : listing s.files directory with
  | error err =>
    rw [registerPartials_of_unlisted e hnull hlist, partialsIn, hlist]
    exact ⟨s.log, hnone.symm⟩
  | ok paths =>
    obtain ⟨log, hrun⟩ := registerPartials_of_listed e hnull hlist
    exact ⟨log, congrArg Prod.snd hrun⟩

end DeferredViews.View
