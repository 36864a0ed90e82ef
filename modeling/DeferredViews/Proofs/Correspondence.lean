import DeferredViews.Proofs.Shape

/-!
# Running templates of the shape

Under two hosts whose helpers answer with texts that correspond, a template of the shape prints
texts that correspond, or fails with the same fault, over locals that hold values of the kinds of
their names.
-/
namespace DeferredViews.Template

open Deferred

variable {W σ τ : Type} [Preorder W] {I : W → σ → τ → Prop} {F : Value → Value → Prop}
  {T : W → String → String → Prop} {shape : Shape} {h : Host σ} {k : Host τ}
  {embed : Template → Locals → Action σ String} {embed' : Template → Locals → Action τ String}

/-- Included templates of the shape print texts that correspond. -/
def EmbedsCorrespond (I : W → σ → τ → Prop) (F : Value → Value → Prop)
    (T : W → String → String → Prop) (shape : Shape) (embed : Template → Locals → Action σ String)
    (embed' : Template → Locals → Action τ String) : Prop :=
  ∀ (w : W) (kinds : Kinds) (t : Template) (l m : Locals), AllFit shape kinds t.body →
    (∀ n, kinds.Relates F T w n (l.get? n) (m.get? n)) → Lockstep I T w (embed t l) (embed' t m)

/-- Where both runs of statements of the shape end: in the same scopes as before, with texts that
correspond. -/
abbrev Prints (T : W → String → String → Prop) (s t : Scope) :
    W → Scope × String → Scope × String → Prop :=
  fun v a b => a.1 = s ∧ b.1 = t ∧ T v a.2 b.2

/-- The items of a loop are plain. -/
theorem items_plain {v : Value} (hv : v.isPlain = true) (w : W) :
    Lockstep I (fun _ a b => a = b ∧ ∀ x ∈ a, x.isPlain = true) w
      (Action.ofExcept v.items : Action σ (List Value))
      (Action.ofExcept v.items : Action τ (List Value)) := by
  cases hitems : v.items with
  | ok xs => exact .pure ⟨rfl, Value.isPlain_items hv hitems⟩
  | error f => exact .throw _

/-- The names that a target gets for a plain value. -/
theorem bind_plain {target : Target} {v : Value} (hv : v.isPlain = true) (w : W) :
    Lockstep I
      (fun _ a b => a = b ∧ a.map (·.1) = target.names ∧ ∀ p ∈ a, p.2.isPlain = true) w
      (Action.ofExcept (target.bind v) : Action σ (List (String × Value)))
      (Action.ofExcept (target.bind v) : Action τ (List (String × Value))) := by
  cases hbind : target.bind v with
  | ok bound => exact .pure ⟨rfl, bind_spec target v hv bound hbind⟩
  | error f => exact .throw _

section Loops

variable {kinds : Kinds} {w : W} {s t : Scope}

theorem itemPasses_corresponds (hT : Corresponds T) (hst : ScopesRelate kinds F T w s t)
    (name : Option String) {target : Target} {condition : Option Expr}
    (hcondition : ∀ e, condition = some e → e.ReadsPlain (kinds.bind target.names)) {x : Value}
    (hx : x.isPlain = true) :
    Lockstep I Same w (itemPasses h name s target condition x)
      (itemPasses k name t target condition x) := by
  cases condition with
  | none => exact .pure rfl
  | some e =>
    refine (bind_plain hx w).bind ?_
    rintro v bound _ hwv ⟨rfl, hnames, hplain⟩
    have hentered := (hst.mono hT hwv).enter [] hplain
    rw [hnames] at hentered
    refine (eval_plain hentered (hcondition e rfl)).bind ?_
    rintro _ a _ - ⟨rfl, -⟩
    exact .pure rfl

/-- The names of the body of a loop, with its state if it reads it. -/
theorem enter_loop (hT : Corresponds T) (hst : ScopesRelate kinds F T w s t) {u : W} (hwu : w ≤ u)
    {target : Target} {body : List Stmt} {state bound : List (String × Value)}
    (hnames : bound.map (·.1) = target.names) (hbound : ∀ p ∈ bound, p.2.isPlain = true)
    (hstate : ∀ p ∈ state, p.2.isPlain = true)
    (hloop : state.map (·.1) ++ target.names = loopNames target body) :
    ScopesRelate (kinds.bind (loopNames target body)) F T u (s.enter (state ++ bound) body)
      (t.enter (state ++ bound) body) := by
  have hplain : ∀ p ∈ state ++ bound, p.2.isPlain = true := by
    intro p hp
    exact (List.mem_append.mp hp).elim (hstate p) (hbound p)
  have hentered := (hst.mono hT hwu).enter body hplain
  rwa [List.map_append, hnames, hloop] at hentered

/-- The state of a loop is plain, and the body sees it if it reads it. -/
theorem loop_state {body : List Stmt} (hreads : anyReads "loop" body = true) (target : Target)
    (i length : Nat) :
    [("loop", Value.loop i length)].map (·.1) ++ target.names = loopNames target body ∧
      ∀ p ∈ [("loop", Value.loop i length)], p.2.isPlain = true := by
  refine ⟨?_, ?_⟩
  · rw [loopNames, if_pos hreads]
    rfl
  · intro p hp
    rw [List.mem_singleton.mp hp]
    exact Value.isPlain_loop i length

section Parts

variable {body : List Stmt} {name : Option String} {target : Target}
  (hbody : ∀ {v : W} {s t : Scope}, ScopesRelate (kinds.bind (loopNames target body)) F T v s t →
    Lockstep I (Prints T s t) v (runAll h embed name s body) (runAll k embed' name t body))

include hbody

theorem itemText_corresponds (hT : Corresponds T) (hst : ScopesRelate kinds F T w s t)
    {state : List (String × Value)} (hstate : ∀ p ∈ state, p.2.isPlain = true)
    (hloop : state.map (·.1) ++ target.names = loopNames target body) {x : Value}
    (hx : x.isPlain = true) :
    Lockstep I T w (itemText h embed name s target body state x)
      (itemText k embed' name t target body state x) := by
  refine (bind_plain hx w).bind ?_
  rintro v bound _ hwv ⟨rfl, hnames, hbound⟩
  have hentered := enter_loop hT hst hwv hnames hbound hstate hloop
  exact (hbody hentered).bind fun _ _ _ _ hdone => .pure hdone.2.2

theorem loopTexts_corresponds (hT : Corresponds T) (hst : ScopesRelate kinds F T w s t)
    {condition : Option Expr}
    (hcondition : ∀ e, condition = some e → e.ReadsPlain (kinds.bind target.names))
    {xs : List Value} (hxs : ∀ x ∈ xs, x.isPlain = true) :
    Lockstep I (Side T) w (loopTexts h embed name s target condition body xs)
      (loopTexts k embed' name t target condition body xs) := by
  have hpasses : ∀ u, w ≤ u → ∀ x ∈ xs, Lockstep I Same u
      (itemPasses h name s target condition x) (itemPasses k name t target condition x) :=
    fun _ hu x hx => itemPasses_corresponds hT (hst.mono hT hu) name hcondition (hxs x hx)
  rw [loopTexts, loopTexts]
  split
  · next hreads =>
    refine (keepEach_corresponds hpasses).bind ?_
    rintro v kept _ hwv ⟨rfl, hkept⟩
    refine printIndexed_corresponds hT 0 fun u hu i x hx => ?_
    obtain ⟨hloop, hstate⟩ := loop_state hreads target i kept.length
    exact itemText_corresponds hbody hT (hst.mono hT (le_trans hwv hu)) hstate hloop
      (hxs x (hkept x hx))
  · next hreads =>
    have hstate : ∀ p ∈ ([] : List (String × Value)), p.2.isPlain = true := by simp
    have hloop : ([] : List (String × Value)).map (·.1) ++ target.names =
        loopNames target body := by
      rw [loopNames, if_neg hreads]
      rfl
    exact printEach_corresponds hT hpasses fun _ hu x hx =>
      itemText_corresponds hbody hT (hst.mono hT hu) hstate hloop (hxs x hx)

end Parts

theorem loopEnd_corresponds {otherwise : List Stmt} {name : Option String}
    (hotherwise : ∀ {s t : Scope}, ScopesRelate kinds F T w s t → Lockstep I (Prints T s t) w
      (runAll h embed name s otherwise) (runAll k embed' name t otherwise))
    (hst : ScopesRelate kinds F T w s t) {outs outs' : List String} (houts : Side T w outs outs') :
    Lockstep I (Prints T s t) w (loopEnd h embed name s otherwise outs)
      (loopEnd k embed' name t otherwise outs') := by
  rw [loopEnd, loopEnd, ← houts.1]
  split
  · exact (hotherwise (hst.enter_nil otherwise)).bind
      fun _ _ _ _ hdone => .pure ⟨rfl, rfl, hdone.2.2⟩
  · exact .pure ⟨rfl, rfl, houts.2⟩

end Loops

section Includes

variable {kinds seen : Kinds} {w : W}

theorem findTemplate_corresponds (hh : h.Corresponds I F T shape k) {template : String}
    (hincludes : shape.includes template seen) :
    Lockstep I (fun _ a b => a = b ∧ AllFit shape seen a.body) w
      (findTemplate h (.str template)) (findTemplate k (.str template)) := by
  refine (hh.load w template seen hincludes).bind ?_
  rintro _ found _ - ⟨rfl, hfound⟩
  cases found with
  | some included => exact .pure ⟨rfl, hfound included rfl⟩
  | none => exact .throw _

theorem wanted_corresponds (hh : h.Corresponds I F T shape k) (ignoreMissing : Bool)
    {template : String} (hincludes : shape.includes template seen) :
    Lockstep I
      (fun _ a b => a = b ∧ ∀ t : Template, a = some t → AllFit shape seen t.body) w
      (wanted h ignoreMissing (.str template)) (wanted k ignoreMissing (.str template)) := by
  have hsome : Lockstep I
      (fun _ a b => a = b ∧ ∀ t : Template, a = some t → AllFit shape seen t.body) w
      (some <$> findTemplate h (.str template)) (some <$> findTemplate k (.str template)) := by
    refine (findTemplate_corresponds hh hincludes).map ?_
    rintro _ included _ - ⟨rfl, hincluded⟩
    refine ⟨rfl, ?_⟩
    rintro _ ⟨⟩
    exact hincluded
  rw [wanted, wanted]
  split
  · refine hsome.tryCatch fun _ e _ => ?_
    split
    · exact .pure ⟨rfl, by simp⟩
    · exact .throw e
  · exact hsome

/-- The locals of an included template. -/
theorem visible_corresponds (hh : h.Corresponds I F T shape k) {s t : Scope}
    (hst : ScopesRelate kinds F T w s t) (withContext : Bool) (n : String) :
    (if withContext then kinds else shape.globals).Relates F T w n
      ((if withContext then s.visible else h.globals).get? n)
      ((if withContext then t.visible else k.globals).get? n) := by
  cases withContext with
  | true => exact hst.visible n
  | false => exact hh.globals w n

theorem embedded_corresponds (hh : h.Corresponds I F T shape k) (hT : Corresponds T)
    (hembed : EmbedsCorrespond I F T shape embed embed') {s t : Scope}
    (hst : ScopesRelate kinds F T w s t) (withContext : Bool) {found : Option Template}
    (hfound : ∀ t : Template, found = some t →
      AllFit shape (if withContext then kinds else shape.globals) t.body) :
    Lockstep I (Prints T s t) w (embedded h embed s withContext found)
      (embedded k embed' t withContext found) := by
  cases found with
  | none => exact .pure ⟨rfl, rfl, hT.plain rfl⟩
  | some included =>
    have hlocals := visible_corresponds hh hst withContext
    exact (hembed w _ included _ _ (hfound included rfl) hlocals).bind
      fun _ _ _ _ hout => .pure ⟨rfl, rfl, hout⟩

end Includes

mutual

/-- What a statement of the shape prints. -/
theorem stmt_corresponds (hh : h.Corresponds I F T shape k) (hT : Corresponds T)
    (hembed : EmbedsCorrespond I F T shape embed embed') (name : Option String) {kinds : Kinds}
    {w : W} {s t : Scope} (hst : ScopesRelate kinds F T w s t) :
    (st : Stmt) → st.Fits shape kinds →
      Lockstep I (Prints T s t) w (st.run h embed name s) (st.run k embed' name t)
  | .text text, hfits => by
    rw [Stmt.run, Stmt.run]
    rw [Stmt.Fits] at hfits
    exact .pure ⟨rfl, rfl, hT.plain hfits⟩
  | .print e, hfits => by
    rw [Stmt.run, Stmt.run, ← hh.autoescape]
    rw [Stmt.Fits] at hfits
    exact (printed_corresponds hh hT hst hfits).bind fun v a b _ hab => .pure ⟨rfl, rfl, hab⟩
  | .choose branches otherwise, hfits => by
    rw [Stmt.run, Stmt.run]
    rw [Stmt.Fits] at hfits
    refine (branches_corresponds hh hT hembed name hst branches hfits.1).bind ?_
    intro v found found' hwv hfound
    cases hfound with
    | none => exact stmts_corresponds hh hT hembed name (hst.mono hT hwv) otherwise hfits.2
    | some hdone => exact .pure hdone
  | .each target source condition body otherwise, hfits => by
    rw [run_each, run_each]
    rw [Stmt.Fits] at hfits
    obtain ⟨hsource, hcondition, hbody, hotherwise⟩ := hfits
    refine (eval_plain hst hsource).bind ?_
    rintro w₁ a _ hw₁ ⟨rfl, ha⟩
    refine (items_plain ha w₁).bind ?_
    rintro w₂ xs _ hw₂ ⟨rfl, hxs⟩
    have hst₂ := hst.mono hT (le_trans hw₁ hw₂)
    refine (loopTexts_corresponds (fun hst' => stmts_corresponds hh hT hembed name hst' body hbody)
      hT hst₂ hcondition hxs).bind ?_
    intro w₃ outs outs' hw₃ houts
    exact loopEnd_corresponds
      (fun hst' => stmts_corresponds hh hT hembed name hst' otherwise hotherwise)
      (hst₂.mono hT hw₃) houts
  | .assign target e, hfits => by
    rw [Stmt.Fits] at hfits
    exact hfits.elim
  | .capture target body, hfits => by
    rw [Stmt.Fits] at hfits
    exact hfits.elim
  | .embed e ignoreMissing withContext, hfits => by
    rw [Stmt.Fits] at hfits
    obtain ⟨template, rfl, hincludes⟩ := hfits
    rw [run_embed, run_embed, Expr.eval, Expr.eval, pure_bind, pure_bind]
    refine (wanted_corresponds hh ignoreMissing hincludes).bind ?_
    rintro v found _ hwv ⟨rfl, hfound⟩
    exact embedded_corresponds hh hT hembed (hst.mono hT hwv) withContext hfound

theorem stmts_corresponds (hh : h.Corresponds I F T shape k) (hT : Corresponds T)
    (hembed : EmbedsCorrespond I F T shape embed embed') (name : Option String) {kinds : Kinds}
    {w : W} {s t : Scope} (hst : ScopesRelate kinds F T w s t) :
    (sts : List Stmt) → AllFit shape kinds sts →
      Lockstep I (Prints T s t) w (runAll h embed name s sts) (runAll k embed' name t sts)
  | [], _ => by
    rw [runAll, runAll]
    exact .pure ⟨rfl, rfl, hT.plain rfl⟩
  | st :: more, hfit => by
    rw [runAll, runAll]
    rw [AllFit] at hfit
    refine (stmt_corresponds hh hT hembed name hst st hfit.1).bind ?_
    rintro v ⟨_, out⟩ ⟨_, out'⟩ hwv ⟨rfl, rfl, hout⟩
    refine (stmts_corresponds hh hT hembed name (hst.mono hT hwv) more hfit.2).bind ?_
    rintro u ⟨_, rest⟩ ⟨_, rest'⟩ hvu ⟨rfl, rfl, hrest⟩
    exact .pure ⟨rfl, rfl, hT.append (hT.mono hvu hout) hrest⟩

theorem branches_corresponds (hh : h.Corresponds I F T shape k) (hT : Corresponds T)
    (hembed : EmbedsCorrespond I F T shape embed embed') (name : Option String) {kinds : Kinds}
    {w : W} {s t : Scope} (hst : ScopesRelate kinds F T w s t) :
    (branches : List (Expr × List Stmt)) → BranchesFit shape kinds branches →
      Lockstep I (fun v => Option.Rel (Prints T s t v)) w (runBranches h embed name s branches)
        (runBranches k embed' name t branches)
  | [], _ => by
    rw [runBranches, runBranches]
    exact .pure .none
  | (e, body) :: more, hfit => by
    rw [runBranches, runBranches]
    rw [BranchesFit] at hfit
    obtain ⟨he, hbody, hmore⟩ := hfit
    refine (eval_plain hst he).bind ?_
    rintro v a _ hwv ⟨rfl, -⟩
    have hst' := hst.mono hT hwv
    split
    · exact (stmts_corresponds hh hT hembed name hst' body hbody).map fun _ _ _ _ hdone =>
        .some hdone
    · exact branches_corresponds hh hT hembed name hst' more hmore

end

theorem runWithin_corresponds (hh : h.Corresponds I F T shape k) (hT : Corresponds T)
    (depth : Nat) : EmbedsCorrespond I F T shape (Template.runWithin h depth)
      (Template.runWithin k depth) := by
  induction depth with
  | zero => exact fun _ _ _ _ _ _ _ => .throw _
  | succ depth ih =>
    intro w kinds t l m hfit hlocals
    rw [Template.runWithin, Template.runWithin]
    have hscopes : ScopesRelate kinds F T w (.ofLocals l t.body) (.ofLocals m t.body) :=
      Scope.Match.ofLocals hlocals (fun _ _ _ => .none) t.body
    exact (stmts_corresponds hh hT ih t.name hscopes t.body hfit).bind fun _ _ _ _ hdone =>
      .pure hdone.2.2

end DeferredViews.Template
