import DeferredViews.Proofs.Plain
import DeferredViews.Proofs.SameHost
import DeferredViews.Proofs.Scopes

/-!
# Templates that print helpers whole

The templates of this shape print text, plain values, the content of a page and calls of helpers
over plain arguments; they loop over plain values, choose by them, and include templates of the same
shape. Two hosts whose helpers answer with texts that correspond make such a template print texts
that correspond.
-/
namespace DeferredViews.Template

open Deferred

/-- What a name stands for. -/
inductive Kind where
  | plain
  | helper
  | content
  deriving DecidableEq, Repr

/-- The names that templates of the shape may use, with what they stand for. -/
abbrev Kinds := String → Option Kind

/-- Some names are bound to plain values. -/
def Kinds.bind (kinds : Kinds) (names : List String) : Kinds := fun n =>
  if n ∈ names then some .plain else kinds n

/-- A plain value: a constant, or the name of one. -/
def Expr.ReadsPlain (kinds : Kinds) : Expr → Prop
  | .const v => v.isPlain = true
  | .name n => kinds n = some .plain
  | _ => False

/-- An argument that is a plain value. -/
def Arg.ReadsPlain (kinds : Kinds) : Arg → Prop
  | .value e => e.ReadsPlain kinds
  | .keyword _ e => e.ReadsPlain kinds
  | _ => False

/-- What may be printed: a plain value, the content of a page, or a call over plain values. Locals
may hide a helper; its calls then fail. -/
def Expr.Prints (kinds : Kinds) : Expr → Prop
  | .name n => kinds n = some .plain ∨ kinds n = some .content
  | .call (.name f) args =>
    (kinds f = some .helper ∨ kinds f = some .plain) ∧ ∀ a ∈ args, a.ReadsPlain kinds
  | _ => False

/-- What the names of templates stand for that do not see the locals, and over which names each
template may be included. -/
structure Shape where
  globals : Kinds
  includes : String → Kinds → Prop

/-- The names that the body of a loop gets. -/
def loopNames (target : Target) (body : List Stmt) : List String :=
  if anyReads "loop" body then "loop" :: target.names else target.names

mutual

/-- The statements of the shape. -/
def Stmt.Fits (shape : Shape) (kinds : Kinds) : Stmt → Prop
  | .text s => tainted s.toList = false
  | .print e => e.Prints kinds
  | .choose branches otherwise =>
    BranchesFit shape kinds branches ∧ AllFit shape kinds otherwise
  | .each target source condition body otherwise =>
    source.ReadsPlain kinds ∧ (∀ e, condition = some e → e.ReadsPlain (kinds.bind target.names)) ∧
      AllFit shape (kinds.bind (loopNames target body)) body ∧ AllFit shape kinds otherwise
  | .embed e _ withContext =>
    ∃ name, e = .const (.str name) ∧
      shape.includes name (if withContext then kinds else shape.globals)
  | .assign _ _ => False
  | .capture _ _ => False

def AllFit (shape : Shape) (kinds : Kinds) : List Stmt → Prop
  | [] => True
  | s :: more => s.Fits shape kinds ∧ AllFit shape kinds more

def BranchesFit (shape : Shape) (kinds : Kinds) : List (Expr × List Stmt) → Prop
  | [] => True
  | (e, body) :: more =>
    e.ReadsPlain kinds ∧ AllFit shape kinds body ∧ BranchesFit shape kinds more

end

section Counterparts

variable {W σ τ : Type} [Preorder W] {I : W → σ → τ → Prop}

/-- Equal values in every world. -/
abbrev Same {α : Type} : W → α → α → Prop := fun _ a b => a = b

/-- A relation of texts that printing keeps. -/
structure Corresponds (T : W → String → String → Prop) : Prop where
  mono : ∀ {w v s t}, w ≤ v → T w s t → T v s t
  plain : ∀ {w s}, tainted s.toList = false → T w s s
  append : ∀ {w s t s' t'}, T w s t → T w s' t' → T w (s ++ s') (t ++ t')

/-- What the values of a name have to do with each other. -/
def Kind.Relates (F : Value → Value → Prop) (T : W → String → String → Prop) (w : W) :
    Kind → Value → Value → Prop
  | .plain, a, b => a = b ∧ a.isPlain = true
  | .helper, a, b => F a b
  | .content, a, b => ∃ s t, a = .markup s ∧ b = .markup t ∧ T w s t

/-- The values of a name are those of its kind, if it has any. -/
def Kinds.Relates (kinds : Kinds) (F : Value → Value → Prop) (T : W → String → String → Prop)
    (w : W) (name : String) (a b : Option Value) : Prop :=
  ∀ kind, kinds name = some kind → Option.Rel (kind.Relates F T w) a b

variable {F : Value → Value → Prop} {T : W → String → String → Prop}

theorem Kind.Relates.mono (hT : Corresponds T) {kind : Kind} {w v : W} (hwv : w ≤ v) {a b : Value}
    (h : kind.Relates F T w a b) : kind.Relates F T v a b := by
  cases kind with
  | plain => exact h
  | helper => exact h
  | content =>
    obtain ⟨s, t, ha, hb, hst⟩ := h
    exact ⟨s, t, ha, hb, hT.mono hwv hst⟩

theorem Kinds.Relates.mono (hT : Corresponds T) {kinds : Kinds} {w v : W} (hwv : w ≤ v)
    {name : String} {a b : Option Value} (h : kinds.Relates F T w name a b) :
    kinds.Relates F T v name a b := by
  intro kind hkind
  cases h kind hkind with
  | none => exact .none
  | some hab => exact .some (hab.mono hT hwv)

/-- Scopes that hold values of the kinds of their names. -/
abbrev ScopesRelate (kinds : Kinds) (F : Value → Value → Prop) (T : W → String → String → Prop)
    (w : W) : Scope → Scope → Prop :=
  Scope.Match (kinds.Relates F T w)

theorem ScopesRelate.mono (hT : Corresponds T) {kinds : Kinds} {w v : W} (hwv : w ≤ v)
    {s t : Scope} (h : ScopesRelate kinds F T w s t) : ScopesRelate kinds F T v s t :=
  ⟨h.mentioned, fun n => (h.value n).mono hT hwv, fun n => (h.visible n).mono hT hwv⟩

omit [Preorder W] in
/-- Plain values that a scope receives. -/
theorem ScopesRelate.enter {kinds : Kinds} {w : W} {s t : Scope}
    (h : ScopesRelate kinds F T w s t) {bound : List (String × Value)} (body : List Stmt)
    (hbound : ∀ p ∈ bound, p.2.isPlain = true) :
    ScopesRelate (kinds.bind (bound.map (·.1))) F T w (s.enter bound body) (t.enter bound body) := by
  refine Scope.Match.enter h body (fun _ _ _ => .none) ?_ ?_
  · intro n v hmem kind hkind
    have hn : n ∈ bound.map (·.1) := List.mem_map.mpr ⟨(n, v), hmem, rfl⟩
    rw [Kinds.bind, if_pos hn] at hkind
    cases hkind
    exact .some ⟨rfl, hbound (n, v) hmem⟩
  · intro n x y hn hxy kind hkind
    rw [Kinds.bind, if_neg hn] at hkind
    exact hxy kind hkind

omit [Preorder W] in
theorem ScopesRelate.enter_nil {kinds : Kinds} {w : W} {s t : Scope}
    (h : ScopesRelate kinds F T w s t) (body : List Stmt) :
    ScopesRelate kinds F T w (s.enter [] body) (t.enter [] body) :=
  Scope.Match.enter h body (fun _ _ _ => .none) nofun fun _ _ _ _ hxy => hxy

omit [Preorder W] in
/-- A name is absent for both, or has values of its kind. -/
theorem ScopesRelate.cases {kinds : Kinds} {w : W} {s t : Scope} (h : ScopesRelate kinds F T w s t)
    {n : String} {kind : Kind} (hn : kinds n = some kind) :
    (s.value n = .absent (.name n) ∧ t.value n = .absent (.name n)) ∨
      kind.Relates F T w (s.value n) (t.value n) := by
  have hvalue := h.value n kind hn
  rw [Scope.value_eq, Scope.value_eq]
  generalize s.value? n = a at hvalue
  generalize t.value? n = b at hvalue
  cases hvalue with
  | none => exact .inl ⟨rfl, rfl⟩
  | some hab => exact .inr hab

/-- Two hosts whose helpers answer with texts that correspond. -/
structure Host.Corresponds (I : W → σ → τ → Prop) (F : Value → Value → Prop)
    (T : W → String → String → Prop) (shape : Shape) (h : Host σ) (k : Host τ) : Prop where
  autoescape : h.autoescape = k.autoescape
  globals : ∀ w n, shape.globals.Relates F T w n (h.globals.get? n) (k.globals.get? n)
  call : ∀ w a b args, F a b →
    Lockstep I (fun v x y => ∃ s t, x = .markup s ∧ y = .markup t ∧ T v s t) w (callValue h a args)
      (callValue k b args)
  load : ∀ w name kinds, shape.includes name kinds →
    Lockstep I (fun _ a b => a = b ∧ ∀ t : Template, a = some t → AllFit shape kinds t.body) w
      (h.load name) (k.load name)

variable {shape : Shape} {h : Host σ} {k : Host τ} {name : Option String}

/-- A plain value is the same for both. -/
theorem eval_plain {kinds : Kinds} {w : W} {s t : Scope} (hst : ScopesRelate kinds F T w s t)
    {e : Expr} (he : e.ReadsPlain kinds) :
    Lockstep I (fun _ a b => a = b ∧ a.isPlain = true) w (e.eval h name s) (e.eval k name t) := by
  cases e with
  | const v =>
    rw [Expr.eval, Expr.eval]
    exact .pure ⟨rfl, he⟩
  | name n =>
    rw [Expr.eval, Expr.eval]
    refine .pure ?_
    rcases hst.cases he with ⟨hs, ht⟩ | hab
    · rw [hs, ht]
      exact ⟨rfl, Value.isPlain_absent _⟩
    · exact hab
  | _ => exact he.elim

/-- Plain arguments are the same for both. -/
theorem evalArguments_plain {kinds : Kinds} {w : W} {s t : Scope}
    (hst : ScopesRelate kinds F T w s t) {args : List Arg} (hargs : ∀ a ∈ args, a.ReadsPlain kinds)
    (hT : Corresponds T) (before : Arguments) :
    Lockstep I Same w (evalArguments h name s before args) (evalArguments k name t before args) := by
  induction args generalizing w before with
  | nil =>
    rw [evalArguments, evalArguments]
    exact .pure rfl
  | cons a args ih =>
    have hmore : ∀ b ∈ args, b.ReadsPlain kinds := fun b hb => hargs b (List.mem_cons_of_mem _ hb)
    have ha := hargs a List.mem_cons_self
    cases a with
    | value e =>
      rw [evalArguments, evalArguments]
      refine (eval_plain hst ha).bind ?_
      rintro v a _ hwv ⟨rfl, -⟩
      exact ih (hst.mono hT hwv) hmore _
    | keyword key e =>
      rw [evalArguments, evalArguments]
      refine (eval_plain hst ha).bind ?_
      rintro v a _ hwv ⟨rfl, -⟩
      exact ih (hst.mono hT hwv) hmore _
    | spread e => exact ha.elim
    | spreadKeywords e => exact ha.elim

/-- A plain value cannot be called. -/
theorem callValue_plain {a : Value} (ha : a.isPlain = true) (w : W) (args : Arguments)
    {R : W → Value → Value → Prop} :
    Lockstep I R w (callValue h a args) (callValue k a args) := by
  cases a with
  | function f =>
    rw [Value.isPlain] at ha
    cases ha
  | method owner n =>
    rw [Value.isPlain] at ha
    cases ha
  | absent why => exact .throw _
  | _ => exact .throw _

/-- Plain values print the same. -/
theorem printed_plain (hT : Corresponds T) {w : W} {a : Value} (ha : a.isPlain = true)
    (escape : Bool) : T w (a.printed escape) (a.printed escape) :=
  hT.plain (Value.tainted_printed ha escape)

omit [Preorder W] in
theorem printed_markup {w : W} {a b : Value} (hab : ∃ s t, a = .markup s ∧ b = .markup t ∧ T w s t)
    (escape : Bool) : T w (a.printed escape) (b.printed escape) := by
  obtain ⟨x, y, rfl, rfl, hxy⟩ := hab
  rw [Value.printed_markup, Value.printed_markup]
  exact hxy

/-- A call prints what the helper answers, or is none. -/
theorem printedCall_corresponds (hh : h.Corresponds I F T shape k) {kinds : Kinds} {w : W}
    {s t : Scope} (hst : ScopesRelate kinds F T w s t) {f : String}
    (hf : kinds f = some .helper ∨ kinds f = some .plain) (args : Arguments) :
    Lockstep I (fun v a b => T v (a.printed h.autoescape) (b.printed h.autoescape)) w
      (callValue h (s.value f) args) (callValue k (t.value f) args) := by
  have hplain : ∀ {a b : Value}, a = b → a.isPlain = true →
      Lockstep I (fun v a b => T v (a.printed h.autoescape) (b.printed h.autoescape)) w
        (callValue h a args) (callValue k b args) := by
    rintro a _ rfl ha
    exact callValue_plain ha w args
  rcases hf with hf | hf
  · rcases hst.cases hf with ⟨hs, ht⟩ | hab
    · exact hplain (hs.trans ht.symm) (hs ▸ Value.isPlain_absent _)
    · exact (hh.call w _ _ args hab).weaken fun _ _ _ _ hxy => printed_markup hxy _
  · rcases hst.cases hf with ⟨hs, ht⟩ | ⟨hsame, ha⟩
    · exact hplain (hs.trans ht.symm) (hs ▸ Value.isPlain_absent _)
    · exact hplain hsame ha

/-- What may be printed corresponds. -/
theorem printed_corresponds (hh : h.Corresponds I F T shape k) (hT : Corresponds T) {kinds : Kinds}
    {w : W} {s t : Scope} (hst : ScopesRelate kinds F T w s t) {e : Expr} (he : e.Prints kinds) :
    Lockstep I (fun v a b => T v (a.printed h.autoescape) (b.printed h.autoescape)) w
      (e.eval h name s) (e.eval k name t) := by
  cases e with
  | name n =>
    rcases he with hn | hn
    · have hread : (Expr.name n).ReadsPlain kinds := hn
      refine (eval_plain hst hread).weaken ?_
      rintro v a _ - ⟨rfl, ha⟩
      exact printed_plain hT ha _
    · rw [Expr.eval, Expr.eval]
      refine .pure ?_
      rcases hst.cases hn with ⟨hs, ht⟩ | hab
      · rw [hs, ht]
        exact printed_plain hT (Value.isPlain_absent _) _
      · exact printed_markup hab _
  | call f args =>
    cases f with
    | name f =>
      obtain ⟨hf, hargs⟩ := he
      rw [Expr.eval, Expr.eval, Expr.eval, Expr.eval, pure_bind, pure_bind]
      refine (evalArguments_plain hst hargs hT {}).bind ?_
      rintro v args _ hwv rfl
      exact printedCall_corresponds hh (hst.mono hT hwv) hf args
    | _ => exact he.elim
  | _ => exact he.elim

/-- Lists of texts that correspond side by side. -/
def Side (T : W → String → String → Prop) (w : W) (outs outs' : List String) : Prop :=
  outs.isEmpty = outs'.isEmpty ∧ T w (String.join outs) (String.join outs')

theorem Side.nil (hT : Corresponds T) (w : W) : Side T w [] [] := by
  have hjoin : String.join [] = "" := rfl
  refine ⟨rfl, ?_⟩
  rw [hjoin]
  exact hT.plain rfl

theorem Side.cons (hT : Corresponds T) {w : W} {s t : String} {outs outs' : List String}
    (h : T w s t) (hmore : Side T w outs outs') : Side T w (s :: outs) (t :: outs') := by
  refine ⟨rfl, ?_⟩
  rw [String.join_cons, String.join_cons]
  exact hT.append h hmore.2

theorem printEach_corresponds (hT : Corresponds T) {test : Value → Action σ Bool}
    {test' : Value → Action τ Bool} {run : Value → Action σ String} {run' : Value → Action τ String}
    {w : W} {vs : List Value}
    (htest : ∀ u, w ≤ u → ∀ v ∈ vs, Lockstep I Same u (test v) (test' v))
    (hrun : ∀ u, w ≤ u → ∀ v ∈ vs, Lockstep I T u (run v) (run' v)) :
    Lockstep I (Side T) w (printEach test run vs) (printEach test' run' vs) := by
  induction vs generalizing w with
  | nil => exact .pure (.nil hT w)
  | cons v more ih =>
    refine (htest w (le_refl w) v List.mem_cons_self).bind ?_
    rintro u passes _ hwu rfl
    have hmore : ∀ u', u ≤ u' → Lockstep I (Side T) u' (printEach test run more)
        (printEach test' run' more) := by
      intro u' huu'
      refine ih ?_ ?_
      · exact fun x hx y hy =>
          htest x (le_trans hwu (le_trans huu' hx)) y (List.mem_cons_of_mem _ hy)
      · exact fun x hx y hy =>
          hrun x (le_trans hwu (le_trans huu' hx)) y (List.mem_cons_of_mem _ hy)
    cases passes with
    | false => exact hmore u (le_refl u)
    | true =>
      refine (hrun u hwu v List.mem_cons_self).bind fun u' s t huu' hst => ?_
      exact (hmore u' huu').bind fun x outs outs' hx houts =>
        .pure (.cons hT (hT.mono hx hst) houts)

theorem keepEach_corresponds {test : Value → Action σ Bool} {test' : Value → Action τ Bool} {w : W}
    {vs : List Value} (htest : ∀ u, w ≤ u → ∀ v ∈ vs, Lockstep I Same u (test v) (test' v)) :
    Lockstep I (fun _ a b => a = b ∧ ∀ v ∈ a, v ∈ vs) w (keepEach test vs) (keepEach test' vs) := by
  induction vs generalizing w with
  | nil => exact .pure ⟨rfl, nofun⟩
  | cons v more ih =>
    refine (htest w (le_refl w) v List.mem_cons_self).bind ?_
    rintro u passes _ hwu rfl
    have hmore := ih fun x hx y hy => htest x (le_trans hwu hx) y (List.mem_cons_of_mem _ hy)
    cases passes with
    | false =>
      refine hmore.weaken ?_
      rintro x kept _ - ⟨rfl, hkept⟩
      exact ⟨rfl, fun y hy => List.mem_cons_of_mem _ (hkept y hy)⟩
    | true =>
      refine hmore.bind ?_
      rintro x kept _ - ⟨rfl, hkept⟩
      refine .pure ⟨rfl, ?_⟩
      intro y hy
      rcases List.mem_cons.mp hy with rfl | hy
      · exact List.mem_cons_self
      · exact List.mem_cons_of_mem _ (hkept y hy)

theorem printIndexed_corresponds (hT : Corresponds T) {run : Nat → Value → Action σ String}
    {run' : Nat → Value → Action τ String} {w : W} {vs : List Value} (i : Nat)
    (hrun : ∀ u, w ≤ u → ∀ i, ∀ v ∈ vs, Lockstep I T u (run i v) (run' i v)) :
    Lockstep I (Side T) w (printIndexed run i vs) (printIndexed run' i vs) := by
  induction vs generalizing w i with
  | nil => exact .pure (.nil hT w)
  | cons v more ih =>
    refine (hrun w (le_refl w) i v List.mem_cons_self).bind fun u s t hwu hst => ?_
    have hmore := ih (i + 1) fun x hx j y hy =>
      hrun x (le_trans hwu hx) j y (List.mem_cons_of_mem _ hy)
    exact hmore.bind fun x outs outs' hx houts => .pure (.cons hT (hT.mono hx hst) houts)

end Counterparts
end DeferredViews.Template
