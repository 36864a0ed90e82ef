import DeferredViews.Proofs.Shape
import DeferredViews.Proofs.Running

/-!
# Names that a template does not read

What an expression comes to depends on the names that it reads. A template that does not read a name
prints the same over locals that differ in that name alone, as long as no template that it may
include reads the name either.
-/
namespace DeferredViews.Template

variable {W σ : Type}

/-! ## Scopes -/

/-- Two scopes that differ at most in what the locals behind them have under a name. -/
structure Scope.Besides (unread : String) (s t : Scope) : Prop where
  frames : s.frames = t.frames
  mentioned : s.mentioned = t.mentioned
  base : ∀ n, n ≠ unread → s.base.get? n = t.base.get? n

namespace Scope.Besides

variable {unread : String} {s t : Scope}

theorem value (h : s.Besides unread t) {n : String} (hn : n ≠ unread) : s.value n = t.value n := by
  rw [Scope.value, Scope.value, h.frames, h.base n hn]

theorem enter (h : s.Besides unread t) (received : List (String × Value)) (body : List Stmt) :
    (s.enter received body).Besides unread (t.enter received body) := by
  refine ⟨?_, ?_, h.base⟩
  · rw [Scope.enter_frames, Scope.enter_frames, Scope.hidden, Scope.hidden, h.mentioned, h.frames]
  · show s.mentioned ++ _ = t.mentioned ++ _
    rw [h.mentioned]

theorem assign (h : s.Besides unread t) (n : String) (v : Value) :
    (s.assign n v).Besides unread (t.assign n v) := by
  have hframes := h.frames
  rw [Scope.assign, Scope.assign, hframes]
  cases t.frames with
  | nil => exact ⟨rfl, h.mentioned, h.base⟩
  | cons f more => exact ⟨rfl, h.mentioned, h.base⟩

theorem assignAll (h : s.Besides unread t) (bound : List (String × Value)) :
    (bound.foldl (fun s (n, v) => s.assign n v) s).Besides unread
      (bound.foldl (fun s (n, v) => s.assign n v) t) := by
  induction bound generalizing s t with
  | nil => exact h
  | cons entry bound ih => exact ih (h.assign entry.1 entry.2)

/-- An included template sees the same, too. -/
theorem visible (h : s.Besides unread t) {n : String} (hn : n ≠ unread) :
    s.visible.get? n = t.visible.get? n := by
  rw [Scope.visible, Scope.visible, h.frames]
  have hbase := h.base n hn
  generalize s.base = l at hbase
  generalize t.base = m at hbase
  induction t.frames.reverse generalizing l m with
  | nil => exact hbase
  | cons f more ih =>
    rw [List.foldl_cons, List.foldl_cons]
    refine ih _ _ ?_
    rw [Locals.get?_update, Locals.get?_update, hbase]

end Scope.Besides

/-! ## Statements -/

/-- A host that only loads templates of some kind, as long as its state is one that it keeps. -/
structure Host.Loads (P : σ → Prop) (Q : Template → Prop) (h : Host σ) : Prop where
  call : ∀ f args kwargs s, P s → P (h.call f args kwargs s).2
  load : ∀ name s, P s → P (h.load name s).2
  loaded : ∀ name s t, P s → (h.load name s).1 = .ok (some t) → Q t

/-- The same state on both sides, one that the host keeps. -/
abbrev Both (P : σ → Prop) : W → σ → σ → Prop := fun _ s t => s = t ∧ P s

/-- The same text on both sides, and scopes that differ at most in a name. -/
abbrev PrintsBesides (unread : String) : W → Scope × String → Scope × String → Prop :=
  fun _ a b => a.1.Besides unread b.1 ∧ a.2 = b.2

theorem corresponds_same [Preorder W] : Corresponds fun (_ : W) (s t : String) => s = t :=
  ⟨fun _ h => h, fun _ => rfl, fun h h' => by rw [h, h']⟩

section Statements

variable {P : σ → Prop} {Q : Template → Prop} {h : Host σ} {unread : String}

theorem Host.Loads.alike (hh : h.Loads P Q) :
    h.Alike (fun _ => True) (fun s t => s = t ∧ P s) h := by
  refine ⟨rfl, rfl, fun _ => trivial, ?_, ?_⟩
  · rintro f args kwargs s _ ⟨rfl, hs⟩
    exact ⟨rfl, ⟨rfl, hh.call f args kwargs s hs⟩, fun _ _ => trivial⟩
  · rintro name s _ ⟨rfl, hs⟩
    exact ⟨rfl, ⟨rfl, hh.load name s hs⟩, fun _ _ => trivial⟩

variable [Preorder W] {w : W}

theorem lockstep_of_agree {α : Type} {E : Interrupt → Prop} {I : σ → σ → Prop} {x y : Action σ α}
    (h : Agree E I x y) : Lockstep (fun _ => I) Same w x y := by
  intro s t hst
  obtain ⟨hsame, hnext, -⟩ := h s t hst
  refine ⟨w, le_refl w, hnext, ?_⟩
  rw [← hsame]
  cases (x s).1 with
  | ok a => exact .ok rfl
  | error e => exact .error e

theorem ofExcept_both {α : Type} (r : Except Fault α) :
    Lockstep (Both P) Same w (Action.ofExcept r : Action σ α) (Action.ofExcept r) := by
  cases r with
  | ok a => exact .pure rfl
  | error f => exact .throw _

theorem load_both (hh : h.Loads P Q) (name : String) :
    Lockstep (Both P) (fun _ a b => a = b ∧ ∀ t, a = some t → Q t) w (h.load name)
      (h.load name) := by
  rintro s _ ⟨rfl, hs⟩
  refine ⟨w, le_refl w, ⟨rfl, hh.load name s hs⟩, ?_⟩
  have hloaded := hh.loaded name s
  generalize (h.load name s).1 = found at hloaded
  cases found with
  | error e => exact .error e
  | ok found => exact .ok ⟨rfl, fun t ht => hloaded t hs (by rw [ht])⟩

/-- A template that was found is of the kind that the host loads, and so is the one that is taken
for a missing one. -/
theorem taken_both {x : Action σ (Option Template)} {f : Action σ Template}
    (hx : Lockstep (Both P) (fun _ a b => a = b ∧ ∀ t, a = some t → Q t) w x x)
    (hf : ∀ v : W, Lockstep (Both P) (fun _ a b => a = b ∧ Q a) v f f) :
    Lockstep (Both P) (fun _ a b => a = b ∧ Q a) w
      (do
        match ← x with
        | some t => return t
        | none => f)
      (do
        match ← x with
        | some t => return t
        | none => f) := by
  refine hx.bind ?_
  rintro v found _ - ⟨rfl, hfound⟩
  cases found with
  | some t => exact .pure ⟨rfl, hfound t rfl⟩
  | none => exact hf v

theorem firstTemplate_both (hh : h.Loads P Q) (vs : List Value) (names : List String) :
    Lockstep (Both P) (fun _ a b => a = b ∧ Q a) w (firstTemplate h vs names)
      (firstTemplate h vs names) := by
  induction vs generalizing names w with
  | nil => exact .throw _
  | cons v more ih =>
    have hload : ∀ v : Value, Lockstep (Both P) (fun _ a b => a = b ∧ ∀ t, a = some t → Q t) w
        (v.text?.elim (pure none) h.load : Action σ (Option Template))
        (v.text?.elim (pure none) h.load : Action σ (Option Template)) := by
      intro v
      cases v.text? with
      | none => exact .pure ⟨rfl, fun _ h => by cases h⟩
      | some name => exact load_both hh name
    cases v with
    | absent why => exact ih _
    | _ =>
      rw [firstTemplate]
      · split
        · exact .throw _
        · exact taken_both (hload _) fun _ => ih _
      exact fun _ => Value.noConfusion

theorem findTemplate_both (hh : h.Loads P Q) (v : Value) :
    Lockstep (Both P) (fun _ a b => a = b ∧ Q a) w (findTemplate h v) (findTemplate h v) := by
  have hlist : ∀ v : Value, Lockstep (Both P) (fun _ a b => a = b ∧ Q a) w
      (if !v.truthy then
        Action.fail (.templatesMissing "Tried to select from an empty list of templates.")
      else do firstTemplate h (← Action.ofExcept v.items) [] : Action σ Template)
      (if !v.truthy then
        Action.fail (.templatesMissing "Tried to select from an empty list of templates.")
      else do firstTemplate h (← Action.ofExcept v.items) [] : Action σ Template) := by
    intro v
    split
    · exact .throw _
    · refine (ofExcept_both _).bind ?_
      rintro _ vs _ - rfl
      exact firstTemplate_both hh vs []
  cases v with
  | str name => exact taken_both (load_both hh name) fun _ => .throw _
  | markup name => exact taken_both (load_both hh name) fun _ => .throw _
  | absent why => exact .throw _
  | _ => exact hlist _

theorem findSome_both (hh : h.Loads P Q) (v : Value) :
    Lockstep (Both P) (fun _ a b => a = b ∧ ∀ t, a = some t → Q t) w (some <$> findTemplate h v)
      (some <$> findTemplate h v) := by
  refine (findTemplate_both hh v).map ?_
  rintro _ t _ - ⟨rfl, ht⟩
  refine ⟨rfl, ?_⟩
  rintro _ ⟨⟩
  exact ht

theorem findTemplate?_both (hh : h.Loads P Q) (v : Value) :
    Lockstep (Both P) (fun _ a b => a = b ∧ ∀ t, a = some t → Q t) w (findTemplate? h v)
      (findTemplate? h v) := by
  refine (findSome_both hh v).tryCatch fun _ e _ => ?_
  split
  · exact .pure ⟨rfl, fun _ h => by cases h⟩
  · exact .throw e

theorem eval_besides (hh : h.Loads P Q) (name : Option String) {s t : Scope}
    (hst : s.Besides unread t) {e : Expr} (he : e.reads.contains unread = false) :
    Lockstep (Both P) Same w (e.eval h name s) (e.eval h name t) := by
  have hsame : ∀ n ∈ e.reads, s.value n = t.value n := by
    intro n hn
    refine hst.value ?_
    rintro rfl
    rw [List.contains_iff_mem.mpr hn] at he
    cases he
  exact lockstep_of_agree (eval_same hh.alike name hsame)

variable (W) in
/-- Included templates print the same over locals that differ in a name alone. -/
def EmbedsBesides (P : σ → Prop) (Q : Template → Prop) (unread : String)
    (embed : Template → Locals → Action σ String) : Prop :=
  ∀ (w : W) (t : Template) (l m : Locals), Q t → (∀ n, n ≠ unread → l.get? n = m.get? n) →
    Lockstep (Both P) Same w (embed t l) (embed t m)

variable {embed : Template → Locals → Action σ String} {name : Option String} {s t : Scope}

theorem itemPasses_besides (hh : h.Loads P Q) (hst : s.Besides unread t) (target : Target)
    {condition : Option Expr} (hcondition : (readsBound condition).contains unread = false)
    (x : Value) :
    Lockstep (Both P) Same w (itemPasses h name s target condition x)
      (itemPasses h name t target condition x) := by
  cases condition with
  | none => exact .pure rfl
  | some e =>
    rw [readsBound] at hcondition
    refine (ofExcept_both _).bind ?_
    rintro _ bound _ - rfl
    refine (eval_besides hh name (hst.enter bound []) hcondition).bind ?_
    rintro _ v _ - rfl
    exact .pure rfl

section Parts

variable {body : List Stmt}
  (hbody : ∀ {v : W} {s t : Scope}, s.Besides unread t →
    Lockstep (Both P) (PrintsBesides unread) v (runAll h embed name s body)
      (runAll h embed name t body))

include hbody

theorem itemText_besides (hst : s.Besides unread t) (target : Target)
    (state : List (String × Value)) (x : Value) :
    Lockstep (Both P) Same w (itemText h embed name s target body state x)
      (itemText h embed name t target body state x) := by
  refine (ofExcept_both _).bind ?_
  rintro _ bound _ - rfl
  exact (hbody (hst.enter (state ++ bound) body)).bind fun _ _ _ _ hdone => .pure hdone.2

theorem loopTexts_besides (hh : h.Loads P Q) (hst : s.Besides unread t) (target : Target)
    {condition : Option Expr} (hcondition : (readsBound condition).contains unread = false)
    (xs : List Value) :
    Lockstep (Both P) (Side fun (_ : W) (a b : String) => a = b) w
      (loopTexts h embed name s target condition body xs)
      (loopTexts h embed name t target condition body xs) := by
  have hpasses : ∀ (v : W) (x : Value), Lockstep (Both P) Same v
      (itemPasses h name s target condition x) (itemPasses h name t target condition x) :=
    fun _ => itemPasses_besides hh hst target hcondition
  rw [loopTexts, loopTexts]
  split
  · refine (keepEach_corresponds fun v _ x _ => hpasses v x).bind ?_
    rintro _ kept _ - ⟨rfl, -⟩
    exact printIndexed_corresponds corresponds_same 0 fun _ _ i x _ =>
      itemText_besides hbody hst target [("loop", .loop i kept.length)] x
  · exact printEach_corresponds corresponds_same (fun v _ x _ => hpasses v x) fun _ _ x _ =>
      itemText_besides hbody hst target [] x

theorem loopEnd_besides (hst : s.Besides unread t) {outs outs' : List String}
    (houts : Side (fun (_ : W) (a b : String) => a = b) w outs outs') :
    Lockstep (Both P) (PrintsBesides unread) w (loopEnd h embed name s body outs)
      (loopEnd h embed name t body outs') := by
  rw [loopEnd, loopEnd, ← houts.1]
  split
  · exact (hbody (hst.enter [] body)).bind fun _ _ _ _ hdone => .pure ⟨hst, hdone.2⟩
  · exact .pure ⟨hst, houts.2⟩

end Parts

theorem wanted_both (hh : h.Loads P Q) (ignoreMissing : Bool) (v : Value) :
    Lockstep (Both P) (fun _ a b => a = b ∧ ∀ t, a = some t → Q t) w (wanted h ignoreMissing v)
      (wanted h ignoreMissing v) := by
  rw [wanted]
  split
  · exact findTemplate?_both hh v
  · exact findSome_both hh v

theorem embedded_besides (hembed : EmbedsBesides W P Q unread embed) (hst : s.Besides unread t)
    (withContext : Bool) {found : Option Template} (hfound : ∀ t, found = some t → Q t) :
    Lockstep (Both P) (PrintsBesides unread) w (embedded h embed s withContext found)
      (embedded h embed t withContext found) := by
  cases found with
  | none => exact .pure ⟨hst, rfl⟩
  | some included =>
    have hlocals : ∀ n, n ≠ unread → (if withContext then s.visible else h.globals).get? n =
        (if withContext then t.visible else h.globals).get? n := by
      intro n hn
      split
      · exact hst.visible hn
      · rfl
    rw [embedded, embedded]
    refine (hembed w included _ _ (hfound included rfl) hlocals).bind ?_
    rintro _ out _ - rfl
    exact .pure ⟨hst, rfl⟩

mutual

/-- A statement that does not read a name prints the same whatever the locals have under it. -/
theorem stmt_besides (hh : h.Loads P Q) (hembed : EmbedsBesides W P Q unread embed)
    (name : Option String) {w : W} {s t : Scope} (hst : s.Besides unread t) :
    (st : Stmt) → st.readsName unread = false →
      Lockstep (Both P) (PrintsBesides unread) w (st.run h embed name s) (st.run h embed name t)
  | .text text, _ => by
    rw [Stmt.run, Stmt.run]
    exact .pure ⟨hst, rfl⟩
  | .print e, hreads => by
    rw [Stmt.readsName] at hreads
    rw [Stmt.run, Stmt.run]
    refine (eval_besides hh name hst hreads).bind ?_
    rintro _ v _ - rfl
    exact .pure ⟨hst, rfl⟩
  | .choose branches otherwise, hreads => by
    rw [Stmt.readsName, Bool.or_eq_false_iff] at hreads
    rw [Stmt.run, Stmt.run]
    refine (branches_besides hh hembed name hst branches hreads.1).bind ?_
    intro _ _ _ _ hdone
    cases hdone with
    | none => exact stmts_besides hh hembed name hst otherwise hreads.2
    | some h => exact .pure h
  | .each target source condition body otherwise, hreads => by
    rw [Stmt.readsName, Bool.or_eq_false_iff, Bool.or_eq_false_iff, Bool.or_eq_false_iff] at hreads
    obtain ⟨⟨⟨hsource, hcondition⟩, hbody⟩, hotherwise⟩ := hreads
    rw [run_each, run_each]
    refine (eval_besides hh name hst hsource).bind ?_
    rintro _ v _ - rfl
    refine (ofExcept_both _).bind ?_
    rintro _ xs _ - rfl
    refine (loopTexts_besides (fun h' => stmts_besides hh hembed name h' body hbody) hh hst target
      hcondition xs).bind ?_
    intro _ outs outs' _ houts
    exact loopEnd_besides (fun h' => stmts_besides hh hembed name h' otherwise hotherwise) hst houts
  | .assign target e, hreads => by
    rw [Stmt.readsName] at hreads
    rw [Stmt.run, Stmt.run]
    refine (eval_besides hh name hst hreads).bind ?_
    rintro _ v _ - rfl
    refine (ofExcept_both _).bind ?_
    rintro _ bound _ - rfl
    exact .pure ⟨hst.assignAll bound, rfl⟩
  | .capture target body, hreads => by
    rw [Stmt.readsName] at hreads
    rw [Stmt.run, Stmt.run]
    refine (stmts_besides hh hembed name (hst.enter [] body) body hreads).bind ?_
    rintro _ ⟨_, out⟩ ⟨_, _⟩ - ⟨-, rfl⟩
    refine (ofExcept_both _).bind ?_
    rintro _ bound _ - rfl
    exact .pure ⟨hst.assignAll bound, rfl⟩
  | .embed e ignoreMissing withContext, hreads => by
    rw [Stmt.readsName] at hreads
    rw [run_embed, run_embed]
    refine (eval_besides hh name hst hreads).bind ?_
    rintro _ v _ - rfl
    refine (wanted_both hh ignoreMissing v).bind ?_
    rintro _ found _ - ⟨rfl, hfound⟩
    exact embedded_besides hembed hst withContext hfound

theorem stmts_besides (hh : h.Loads P Q) (hembed : EmbedsBesides W P Q unread embed)
    (name : Option String) {w : W} {s t : Scope} (hst : s.Besides unread t) :
    (sts : List Stmt) → anyReads unread sts = false →
      Lockstep (Both P) (PrintsBesides unread) w (runAll h embed name s sts)
        (runAll h embed name t sts)
  | [], _ => by
    rw [runAll, runAll]
    exact .pure ⟨hst, rfl⟩
  | st :: more, hreads => by
    rw [anyReads, Bool.or_eq_false_iff] at hreads
    rw [runAll, runAll]
    refine (stmt_besides hh hembed name hst st hreads.1).bind ?_
    rintro _ ⟨s', out⟩ ⟨t', _⟩ - ⟨hst', rfl⟩
    refine (stmts_besides hh hembed name hst' more hreads.2).bind ?_
    rintro _ ⟨_, rest⟩ ⟨_, _⟩ - ⟨hend, rfl⟩
    exact .pure ⟨hend, rfl⟩

theorem branches_besides (hh : h.Loads P Q) (hembed : EmbedsBesides W P Q unread embed)
    (name : Option String) {w : W} {s t : Scope} (hst : s.Besides unread t) :
    (branches : List (Expr × List Stmt)) → branchesRead unread branches = false →
      Lockstep (Both P) (fun v => Option.Rel (PrintsBesides unread v)) w
        (runBranches h embed name s branches) (runBranches h embed name t branches)
  | [], _ => by
    rw [runBranches, runBranches]
    exact .pure .none
  | (e, body) :: more, hreads => by
    rw [branchesRead, Bool.or_eq_false_iff, Bool.or_eq_false_iff] at hreads
    obtain ⟨⟨he, hbody⟩, hmore⟩ := hreads
    rw [runBranches, runBranches]
    refine (eval_besides hh name hst he).bind ?_
    rintro _ v _ - rfl
    split
    · exact (stmts_besides hh hembed name hst body hbody).map fun _ _ _ _ hdone => .some hdone
    · exact branches_besides hh hembed name hst more hmore

end

end Statements

section Runs

variable {P : σ → Prop} {h : Host σ} {unread : String}
  (hh : h.Loads P fun t => anyReads unread t.body = false)

include hh

theorem runWithin_besides [Preorder W] (depth : Nat) :
    EmbedsBesides W P (fun t => anyReads unread t.body = false) unread (Template.runWithin h depth) := by
  induction depth with
  | zero => exact fun _ _ _ _ _ _ => .throw _
  | succ depth ih =>
    intro w t l m ht hlm
    have hstart : (Scope.mk [] l []).Besides unread (Scope.mk [] m []) := ⟨rfl, rfl, hlm⟩
    rw [Template.runWithin, Template.runWithin]
    exact (stmts_besides hh ih t.name (hstart.enter [] t.body) t.body ht).bind
      fun _ _ _ _ hdone => .pure hdone.2

/-- A template that does not read a name, and includes none that does, runs alike over locals that
differ in that name alone. -/
theorem run_besides {t : Template} (ht : anyReads unread t.body = false) {l m : Locals}
    (hlm : ∀ n, n ≠ unread → (h.globals.update l).get? n = (h.globals.update m).get? n) {s : σ}
    (hs : P s) : t.run h l s = t.run h m s := by
  obtain ⟨_, _, hnext, hend⟩ := runWithin_besides hh includeDepth () t _ _ ht hlm s s ⟨rfl, hs⟩
  rw [Template.run, Template.run]
  revert hnext hend
  generalize t.runWithin h includeDepth (h.globals.update l) s = x
  generalize t.runWithin h includeDepth (h.globals.update m) s = y
  intro hnext hend
  obtain ⟨result, s'⟩ := x
  obtain ⟨result', t'⟩ := y
  obtain ⟨rfl, -⟩ := hnext
  dsimp only at hend
  cases hend with
  | ok heq => rw [heq]
  | error e => rfl

end Runs
end DeferredViews.Template

namespace DeferredViews.View

open Template

/-- A template that an engine may include. -/
def Engine.Includes (d : Engine) (t : Template) : Prop :=
  ∃ name, (d.load name).map (·.2) = .ok (some t)

/-- What the templates of an engine include stays the same while they run. -/
theorem loads_hostFor (e : Nat) (d : Engine) (scope : Option Nat) :
    (hostFor e d scope).Loads (fun s => (s.engine e).Alike d) d.Includes := by
  refine ⟨fun _ _ _ _ hs => hs, ?_, ?_⟩
  · intro name s hs
    show ((loadFor e name s).2.engine e).Alike d
    rw [loadFor]
    cases hload : (s.engine e).load name with
    | error f => exact hs
    | ok x => exact ((s.alike_setEngine (Engine.alike_of_load hload) e).1).trans hs
  · intro name s t hs hfound
    have hfound : (loadFor e name s).1 = .ok (some t) := hfound
    refine ⟨name, ?_⟩
    rw [← hs.load name]
    rw [loadFor] at hfound
    cases hload : (s.engine e).load name with
    | error f =>
      rw [hload] at hfound
      cases hfound
    | ok x =>
      rw [hload] at hfound
      exact congrArg Except.ok (Except.ok.inj hfound)

/-- What a template prints, and does, does not depend on a name that neither it nor a template that
it may include reads. -/
theorem run_set_unread (c : Compiled) (scope : Option Nat) {unread : String} {s : Site}
    (hreads : anyReads unread c.template.body = false)
    (hincluded : ∀ t, (s.engine c.engine).Includes t → anyReads unread t.body = false)
    (locals : Locals) (v : Value) :
    c.run scope (locals.set unread v) s = c.run scope locals s := by
  have hloads := loads_hostFor c.engine (s.engine c.engine) scope
  refine run_besides ⟨hloads.call, hloads.load, ?_⟩ hreads ?_ (.refl _)
  · exact fun name u t hu hfound => hincluded t (hloads.loaded name u t hu hfound)
  · exact fun n hn => Locals.get?_update_set_of_ne _ locals v hn

end DeferredViews.View
