import DeferredViews.Proofs.Lockstep
import DeferredViews.Proofs.Loops

/-!
# Templates under hosts that answer alike

A template asks its host only to call functions and to find included templates. Two hosts that
answer these questions alike, whatever their states are, make every template print the same text
over the same locals, or fail with the same interrupt. What interrupts a template is a fault, or an
interrupt of a call or a search. Hosts may also part: they answer alike until the first of them comes
to a state that it cannot leave again, and a run that ends in no such state came to the same.
-/
namespace DeferredViews

variable {σ τ α β : Type} {D : σ → Prop} {E : Interrupt → Prop} {I : σ → τ → Prop}

/-- From related states two computations come to the same in related states. Only what is in `E`
interrupts them. -/
def Agree (E : Interrupt → Prop) (I : σ → τ → Prop) (x : Action σ α) (y : Action τ α) : Prop :=
  ∀ s t, I s t → (x s).1 = (y t).1 ∧ I (x s).2 (y t).2 ∧ ∀ e, (x s).1 = .error e → E e

/-- As `Agree`, or else the first computation ends in `D`, which it does not leave. -/
structure AgreeUntil (D : σ → Prop) (E : Interrupt → Prop) (I : σ → τ → Prop) (x : Action σ α)
    (y : Action τ α) : Prop where
  stays : ∀ s, D s → D (x s).2
  same : ∀ s t, I s t → D (x s).2 ∨
    ((x s).1 = (y t).1 ∧ I (x s).2 (y t).2 ∧ ∀ e, (x s).1 = .error e → E e)

/-- Computations that never part agree. -/
theorem agreeUntil_never {x : Action σ α} {y : Action τ α} :
    AgreeUntil (fun _ => False) E I x y ↔ Agree E I x y :=
  ⟨fun h s t hst => (h.same s t hst).resolve_left not_false,
    fun h => ⟨fun _ => False.elim, fun s t hst => .inr (h s t hst)⟩⟩

namespace AgreeUntil

theorem pure (a : α) :
    AgreeUntil D E I (Pure.pure a : Action σ α) (Pure.pure a : Action τ α) :=
  ⟨fun _ => id, fun _ _ hst => .inr ⟨rfl, hst, nofun⟩⟩

theorem throw {e : Interrupt} (h : E e) :
    AgreeUntil D E I (MonadExcept.throw e : Action σ α) (MonadExcept.throw e : Action τ α) := by
  refine ⟨fun _ => id, fun s t hst => .inr ⟨rfl, hst, ?_⟩⟩
  rintro _ ⟨⟩
  exact h

theorem bind {x : Action σ α} {y : Action τ α} {f : α → Action σ β} {g : α → Action τ β}
    (h : AgreeUntil D E I x y) (hnext : ∀ a, AgreeUntil D E I (f a) (g a)) :
    AgreeUntil D E I (x >>= f) (y >>= g) := by
  have hstays : ∀ s, D (x s).2 → D ((x >>= f) s).2 := by
    intro s hs
    rw [bind_apply]
    cases (x s).1 with
    | ok a => exact (hnext a).stays _ hs
    | error e => exact hs
  refine ⟨fun s hs => hstays s (h.stays s hs), fun s t hst => ?_⟩
  obtain hparted | ⟨hsame, hst', herror⟩ := h.same s t hst
  · exact .inl (hstays s hparted)
  · rw [bind_apply, bind_apply, ← hsame]
    cases hx : (x s).1 with
    | ok a => exact (hnext a).same _ _ hst'
    | error e =>
      refine .inr ⟨rfl, hst', ?_⟩
      rintro _ ⟨⟩
      exact herror e hx

theorem map {x : Action σ α} {y : Action τ α} (f : α → β) (h : AgreeUntil D E I x y) :
    AgreeUntil D E I (f <$> x) (f <$> y) :=
  h.bind fun _ => .pure _

theorem tryCatch {x : Action σ α} {y : Action τ α} {f : Interrupt → Action σ α}
    {g : Interrupt → Action τ α} (h : AgreeUntil D E I x y)
    (hstay : ∀ e s, D s → D (f e s).2) (hcatch : ∀ e, E e → AgreeUntil D E I (f e) (g e)) :
    AgreeUntil D E I (MonadExcept.tryCatch x f) (MonadExcept.tryCatch y g) := by
  have hstays : ∀ s, D (x s).2 → D ((MonadExcept.tryCatch x f : Action σ α) s).2 := by
    intro s hs
    rw [tryCatch_apply]
    cases (x s).1 with
    | ok a => exact hs
    | error e => exact hstay e _ hs
  refine ⟨fun s hs => hstays s (h.stays s hs), fun s t hst => ?_⟩
  obtain hparted | ⟨hsame, hst', herror⟩ := h.same s t hst
  · exact .inl (hstays s hparted)
  · rw [tryCatch_apply, tryCatch_apply, ← hsame]
    cases hx : (x s).1 with
    | ok a => exact .inr ⟨rfl, hst', nofun⟩
    | error e => exact (hcatch e (herror e hx)).same _ _ hst'

end AgreeUntil
end DeferredViews

namespace DeferredViews.Template

variable {σ τ : Type} {D : σ → Prop} {E : Interrupt → Prop} {I : σ → τ → Prop}

/-- Two hosts that answer alike. -/
structure Host.Alike (E : Interrupt → Prop) (I : σ → τ → Prop) (h : Host σ) (k : Host τ) : Prop where
  autoescape : h.autoescape = k.autoescape
  globals : h.globals = k.globals
  fault : ∀ f, E (.fault f)
  call : ∀ f args kwargs, Agree E I (h.call f args kwargs) (k.call f args kwargs)
  load : ∀ name, Agree E I (h.load name) (k.load name)

/-- Two hosts that answer alike until the first one comes to a state in `D`. -/
structure Host.AlikeUntil (D : σ → Prop) (E : Interrupt → Prop) (I : σ → τ → Prop) (h : Host σ)
    (k : Host τ) : Prop where
  autoescape : h.autoescape = k.autoescape
  globals : h.globals = k.globals
  fault : ∀ f, E (.fault f)
  call : ∀ f args kwargs, AgreeUntil D E I (h.call f args kwargs) (k.call f args kwargs)
  load : ∀ name, AgreeUntil D E I (h.load name) (k.load name)

variable {h : Host σ} {k : Host τ}

/-- Hosts that answer alike never part. -/
theorem Host.Alike.alikeUntil (hh : h.Alike E I k) : h.AlikeUntil (fun _ => False) E I k :=
  ⟨hh.autoescape, hh.globals, hh.fault, fun f args kwargs =>
    agreeUntil_never.mpr (hh.call f args kwargs), fun name => agreeUntil_never.mpr (hh.load name)⟩

theorem Host.AlikeUntil.fail {α : Type} (hh : h.AlikeUntil D E I k) (f : Fault) :
    AgreeUntil D E I (Action.fail f : Action σ α) (Action.fail f : Action τ α) :=
  .throw (hh.fault f)

theorem Host.AlikeUntil.ofExcept {α : Type} (hh : h.AlikeUntil D E I k) (r : Except Fault α) :
    AgreeUntil D E I (Action.ofExcept r : Action σ α) (Action.ofExcept r : Action τ α) := by
  cases r with
  | ok a => exact .pure a
  | error f => exact hh.fail f

theorem callValue_until (hh : h.AlikeUntil D E I k) (f : Value) (a : Arguments) :
    AgreeUntil D E I (callValue h f a) (callValue k f a) := by
  cases f with
  | function c => exact hh.call c a.args a.kwargs
  | method owner name => exact hh.ofExcept _
  | absent why => exact hh.fail _
  | _ => exact hh.fail _

/-- An element whose key is no slice. -/
theorem eval_element (h : Host σ) (name : Option String) (s : Scope) {e key : Expr}
    (hkey : ∀ start stop step, key ≠ .slice start stop step) :
    (Expr.element e key).eval h name s = (do
      let v ← e.eval h name s
      .ofExcept (v.getElement (← key.eval h name s))) := by
  rw [Expr.eval]
  exact hkey

theorem element_until (hh : h.AlikeUntil D E I k) {name : Option String} {s t : Scope}
    {e key : Expr} (hkey : ∀ start stop step, key ≠ .slice start stop step)
    (he : AgreeUntil D E I (e.eval h name s) (e.eval k name t))
    (hk : AgreeUntil D E I (key.eval h name s) (key.eval k name t)) :
    AgreeUntil D E I ((Expr.element e key).eval h name s)
      ((Expr.element e key).eval k name t) := by
  rw [eval_element h name s hkey, eval_element k name t hkey]
  exact he.bind fun _ => hk.bind fun _ => hh.ofExcept _

mutual

/-- The value of an expression, in scopes that agree on the names that it reads. -/
theorem eval_until (hh : h.AlikeUntil D E I k) (name : Option String) {s t : Scope} :
    (e : Expr) → (∀ n ∈ e.reads, s.value n = t.value n) →
      AgreeUntil D E I (e.eval h name s) (e.eval k name t)
  | .const v, _ => by
    rw [Expr.eval, Expr.eval]
    exact .pure _
  | .name n, hst => by
    rw [Expr.eval, Expr.eval, hst n (by simp [Expr.reads])]
    exact .pure _
  | .tuple items, hst => by
    rw [Expr.reads] at hst
    rw [Expr.eval, Expr.eval]
    exact (evalAll_until hh name items hst).map _
  | .list items, hst => by
    rw [Expr.reads] at hst
    rw [Expr.eval, Expr.eval]
    exact (evalAll_until hh name items hst).map _
  | .dict entries, hst => by
    rw [Expr.reads] at hst
    rw [Expr.eval, Expr.eval]
    exact (evalEntries_until hh name entries hst).bind fun _ => hh.ofExcept _
  | .attr e field, hst => by
    rw [Expr.reads] at hst
    rw [Expr.eval, Expr.eval]
    exact (eval_until hh name e hst).bind fun _ => hh.ofExcept _
  | .element e key, hst => by
    rw [Expr.reads, List.forall_mem_append] at hst
    obtain ⟨he, hk⟩ := hst
    cases key with
    | slice start stop step =>
      rw [Expr.reads, List.forall_mem_append, List.forall_mem_append] at hk
      obtain ⟨⟨hstart, hstop⟩, hstep⟩ := hk
      rw [Expr.eval, Expr.eval]
      refine (eval_until hh name e he).bind fun _ => ?_
      refine (evalBound_until hh name start hstart).bind fun _ => ?_
      refine (evalBound_until hh name stop hstop).bind fun _ => ?_
      exact (evalBound_until hh name step hstep).bind fun _ => hh.ofExcept _
    | _ => exact element_until hh nofun (eval_until hh name e he) (eval_until hh name _ hk)
  | .slice start stop step, hst => by
    rw [Expr.reads, List.forall_mem_append, List.forall_mem_append] at hst
    obtain ⟨⟨hstart, hstop⟩, hstep⟩ := hst
    rw [Expr.eval, Expr.eval]
    refine (evalBound_until hh name start hstart).bind fun _ => ?_
    refine (evalBound_until hh name stop hstop).bind fun _ => ?_
    exact (evalBound_until hh name step hstep).bind fun _ => .pure _
  | .call f args, hst => by
    rw [Expr.reads, List.forall_mem_append] at hst
    rw [Expr.eval, Expr.eval]
    refine (eval_until hh name f hst.1).bind fun _ => ?_
    exact (evalArguments_until hh name {} args hst.2).bind fun _ => callValue_until hh _ _
  | .filter e filter args, hst => by
    rw [Expr.reads, List.forall_mem_append] at hst
    rw [Expr.eval, Expr.eval, hh.autoescape]
    refine (eval_until hh name e hst.1).bind fun _ => ?_
    exact (evalArguments_until hh name {} args hst.2).bind fun _ => hh.ofExcept _
  | .test e test args, hst => by
    rw [Expr.reads, List.forall_mem_append] at hst
    rw [Expr.eval, Expr.eval]
    refine (eval_until hh name e hst.1).bind fun _ => ?_
    exact (evalArguments_until hh name {} args hst.2).bind fun _ => hh.ofExcept _
  | .not e, hst => by
    rw [Expr.reads] at hst
    rw [Expr.eval, Expr.eval]
    exact (eval_until hh name e hst).bind fun _ => .pure _
  | .sign negative e, hst => by
    rw [Expr.reads] at hst
    rw [Expr.eval, Expr.eval]
    exact (eval_until hh name e hst).bind fun _ => hh.ofExcept _
  | .arithmetic op a b, hst => by
    rw [Expr.reads, List.forall_mem_append] at hst
    rw [Expr.eval, Expr.eval]
    refine (eval_until hh name a hst.1).bind fun _ => ?_
    exact (eval_until hh name b hst.2).bind fun _ => hh.ofExcept _
  | .concat parts, hst => by
    rw [Expr.reads] at hst
    rw [Expr.eval, Expr.eval, hh.autoescape]
    exact (evalAll_until hh name parts hst).bind fun _ => .pure _
  | .compare first rest, hst => by
    rw [Expr.reads, List.forall_mem_append] at hst
    rw [Expr.eval, Expr.eval]
    exact (eval_until hh name first hst.1).bind fun a => evalChain_until hh name a rest hst.2
  | .and a b, hst => by
    rw [Expr.reads, List.forall_mem_append] at hst
    rw [Expr.eval, Expr.eval]
    refine (eval_until hh name a hst.1).bind fun _ => ?_
    split
    · exact eval_until hh name b hst.2
    · exact .pure _
  | .or a b, hst => by
    rw [Expr.reads, List.forall_mem_append] at hst
    rw [Expr.eval, Expr.eval]
    refine (eval_until hh name a hst.1).bind fun _ => ?_
    split
    · exact .pure _
    · exact eval_until hh name b hst.2
  | .cond line test yes no, hst => by
    rw [Expr.reads, List.forall_mem_append, List.forall_mem_append] at hst
    obtain ⟨⟨htest, hyes⟩, hno⟩ := hst
    cases no with
    | none =>
      rw [Expr.eval, Expr.eval]
      refine (eval_until hh name test htest).bind fun _ => ?_
      split
      · exact eval_until hh name yes hyes
      · exact .pure _
    | some e =>
      rw [readsBound] at hno
      rw [Expr.eval, Expr.eval]
      refine (eval_until hh name test htest).bind fun _ => ?_
      split
      · exact eval_until hh name yes hyes
      · exact eval_until hh name e hno

theorem evalAll_until (hh : h.AlikeUntil D E I k) (name : Option String) {s t : Scope} :
    (es : List Expr) → (∀ n ∈ readsAll es, s.value n = t.value n) →
      AgreeUntil D E I (evalAll h name s es) (evalAll k name t es)
  | [], _ => by
    rw [evalAll, evalAll]
    exact .pure _
  | e :: more, hst => by
    rw [readsAll, List.forall_mem_append] at hst
    rw [evalAll, evalAll]
    refine (eval_until hh name e hst.1).bind fun _ => ?_
    exact (evalAll_until hh name more hst.2).bind fun _ => .pure _

theorem evalEntries_until (hh : h.AlikeUntil D E I k) (name : Option String) {s t : Scope} :
    (es : List (Expr × Expr)) → (∀ n ∈ readsEntries es, s.value n = t.value n) →
      AgreeUntil D E I (evalEntries h name s es) (evalEntries k name t es)
  | [], _ => by
    rw [evalEntries, evalEntries]
    exact .pure _
  | (key, e) :: more, hst => by
    rw [readsEntries, List.forall_mem_append, List.forall_mem_append] at hst
    obtain ⟨⟨hkey, he⟩, hmore⟩ := hst
    rw [evalEntries, evalEntries]
    refine (eval_until hh name key hkey).bind fun _ => ?_
    refine (eval_until hh name e he).bind fun _ => ?_
    exact (evalEntries_until hh name more hmore).bind fun _ => .pure _

theorem evalBound_until (hh : h.AlikeUntil D E I k) (name : Option String) {s t : Scope} :
    (e : Option Expr) → (∀ n ∈ readsBound e, s.value n = t.value n) →
      AgreeUntil D E I (evalBound h name s e) (evalBound k name t e)
  | none, _ => by
    rw [evalBound, evalBound]
    exact .pure _
  | some e, hst => by
    rw [readsBound] at hst
    rw [evalBound, evalBound]
    exact eval_until hh name e hst

theorem evalArguments_until (hh : h.AlikeUntil D E I k) (name : Option String) {s t : Scope}
    (a : Arguments) : (args : List Arg) → (∀ n ∈ readsArguments args, s.value n = t.value n) →
      AgreeUntil D E I (evalArguments h name s a args) (evalArguments k name t a args)
  | [], _ => by
    rw [evalArguments, evalArguments]
    exact .pure _
  | .value e :: more, hst => by
    rw [readsArguments, List.forall_mem_append] at hst
    rw [evalArguments, evalArguments]
    exact (eval_until hh name e hst.1).bind fun _ => evalArguments_until hh name _ more hst.2
  | .keyword key e :: more, hst => by
    rw [readsArguments, List.forall_mem_append] at hst
    rw [evalArguments, evalArguments]
    exact (eval_until hh name e hst.1).bind fun _ => evalArguments_until hh name _ more hst.2
  | .spread e :: more, hst => by
    rw [readsArguments, List.forall_mem_append] at hst
    rw [evalArguments, evalArguments]
    refine (eval_until hh name e hst.1).bind fun _ => ?_
    exact (hh.ofExcept _).bind fun _ => evalArguments_until hh name _ more hst.2
  | .spreadKeywords e :: more, hst => by
    rw [readsArguments, List.forall_mem_append] at hst
    rw [evalArguments, evalArguments]
    refine (eval_until hh name e hst.1).bind fun _ => ?_
    exact (hh.ofExcept _).bind fun _ => evalArguments_until hh name _ more hst.2

theorem evalChain_until (hh : h.AlikeUntil D E I k) (name : Option String) {s t : Scope}
    (a : Value) : (rest : List (Relation × Expr)) →
      (∀ n ∈ readsChain rest, s.value n = t.value n) →
      AgreeUntil D E I (evalChain h name s a rest) (evalChain k name t a rest)
  | [], _ => by
    rw [evalChain, evalChain]
    exact .pure _
  | (r, e) :: more, hst => by
    rw [readsChain, List.forall_mem_append] at hst
    rw [evalChain, evalChain]
    refine (eval_until hh name e hst.1).bind fun b => ?_
    refine (hh.ofExcept _).bind fun holds => ?_
    split
    · exact evalChain_until hh name b more hst.2
    · exact .pure _

end

/-- A template that was found is taken, and for a missing one both go on in step. -/
theorem taken_until {x : Action σ (Option Template)} {y : Action τ (Option Template)}
    {f : Action σ Template} {g : Action τ Template} (hload : AgreeUntil D E I x y)
    (hmissing : AgreeUntil D E I f g) :
    AgreeUntil D E I
      (do
        match ← x with
        | some t => return t
        | none => f)
      (do
        match ← y with
        | some t => return t
        | none => g) := by
  refine hload.bind fun found => ?_
  cases found with
  | some t => exact .pure _
  | none => exact hmissing

theorem firstTemplate_until (hh : h.AlikeUntil D E I k) (vs : List Value) (names : List String) :
    AgreeUntil D E I (firstTemplate h vs names) (firstTemplate k vs names) := by
  induction vs generalizing names with
  | nil => exact hh.fail _
  | cons v more ih =>
    have hload : ∀ v : Value, AgreeUntil D E I
        (v.text?.elim (pure none) h.load : Action σ (Option Template))
        (v.text?.elim (pure none) k.load : Action τ (Option Template)) := by
      intro v
      cases v.text? with
      | none => exact .pure _
      | some name => exact hh.load name
    cases v with
    | absent why => exact ih _
    | _ =>
      rw [firstTemplate, firstTemplate]
      · split
        · exact hh.fail _
        · exact taken_until (hload _) (ih _)
      all_goals exact fun _ => Value.noConfusion

theorem findTemplate_until (hh : h.AlikeUntil D E I k) (v : Value) :
    AgreeUntil D E I (findTemplate h v) (findTemplate k v) := by
  have hlist : ∀ v : Value, AgreeUntil D E I
      (if !v.truthy then
        Action.fail (.templatesMissing "Tried to select from an empty list of templates.")
      else do firstTemplate h (← Action.ofExcept v.items) [] : Action σ Template)
      (if !v.truthy then
        Action.fail (.templatesMissing "Tried to select from an empty list of templates.")
      else do firstTemplate k (← Action.ofExcept v.items) [] : Action τ Template) := by
    intro v
    split
    · exact hh.fail _
    · exact (hh.ofExcept _).bind fun vs => firstTemplate_until hh vs []
  cases v with
  | str name => exact taken_until (hh.load name) (hh.fail _)
  | markup name => exact taken_until (hh.load name) (hh.fail _)
  | absent why => exact hh.fail _
  | _ =>
    unfold findTemplate
    exact hlist _

theorem findTemplate?_until (hh : h.AlikeUntil D E I k) (v : Value) :
    AgreeUntil D E I (findTemplate? h v) (findTemplate? k v) := by
  refine ((findTemplate_until hh v).map _).tryCatch (fun e s hs => ?_) fun e he => ?_
  · split <;> exact hs
  · split
    · exact .pure _
    · exact .throw he

theorem wanted_until (hh : h.AlikeUntil D E I k) (ignoreMissing : Bool) (v : Value) :
    AgreeUntil D E I (wanted h ignoreMissing v) (wanted k ignoreMissing v) := by
  rw [wanted, wanted]
  split
  · exact findTemplate?_until hh v
  · exact (findTemplate_until hh v).map _

theorem printEach_until {test : Value → Action σ Bool} {test' : Value → Action τ Bool}
    {run : Value → Action σ String} {run' : Value → Action τ String}
    (htest : ∀ v, AgreeUntil D E I (test v) (test' v))
    (hrun : ∀ v, AgreeUntil D E I (run v) (run' v)) (vs : List Value) :
    AgreeUntil D E I (printEach test run vs) (printEach test' run' vs) := by
  induction vs with
  | nil => exact .pure _
  | cons v more ih =>
    refine (htest v).bind fun passes => ?_
    cases passes with
    | false => exact ih
    | true =>
      refine (hrun v).bind fun out => ?_
      exact ih.bind fun _ => .pure _

theorem keepEach_until {test : Value → Action σ Bool} {test' : Value → Action τ Bool}
    (htest : ∀ v, AgreeUntil D E I (test v) (test' v)) (vs : List Value) :
    AgreeUntil D E I (keepEach test vs) (keepEach test' vs) := by
  induction vs with
  | nil => exact .pure _
  | cons v more ih =>
    refine (htest v).bind fun passes => ?_
    cases passes with
    | false => exact ih
    | true => exact ih.bind fun _ => .pure _

theorem printIndexed_until {run : Nat → Value → Action σ String}
    {run' : Nat → Value → Action τ String}
    (hrun : ∀ i v, AgreeUntil D E I (run i v) (run' i v)) (i : Nat) (vs : List Value) :
    AgreeUntil D E I (printIndexed run i vs) (printIndexed run' i vs) := by
  induction vs generalizing i with
  | nil => exact .pure _
  | cons v more ih =>
    refine (hrun i v).bind fun out => ?_
    exact (ih (i + 1)).bind fun _ => .pure _

section Statements

variable {embed : Template → Locals → Action σ String} {embed' : Template → Locals → Action τ String}
  {name : Option String} {s : Scope}

theorem itemPasses_until (hh : h.AlikeUntil D E I k) (target : Target) (condition : Option Expr)
    (x : Value) :
    AgreeUntil D E I (itemPasses h name s target condition x)
      (itemPasses k name s target condition x) := by
  cases condition with
  | none => exact .pure _
  | some e =>
    refine (hh.ofExcept _).bind fun bound => ?_
    exact (eval_until hh name e fun _ _ => rfl).bind fun _ => .pure _

theorem itemText_until (hh : h.AlikeUntil D E I k) {target : Target} {body : List Stmt}
    (hbody : ∀ u, AgreeUntil D E I (runAll h embed name u body) (runAll k embed' name u body))
    (state : List (String × Value)) (x : Value) :
    AgreeUntil D E I (itemText h embed name s target body state x)
      (itemText k embed' name s target body state x) := by
  refine (hh.ofExcept _).bind fun bound => ?_
  exact (hbody (s.enter (state ++ bound) body)).bind fun _ => .pure _

theorem loopTexts_until (hh : h.AlikeUntil D E I k) (target : Target) (condition : Option Expr)
    {body : List Stmt}
    (hbody : ∀ u, AgreeUntil D E I (runAll h embed name u body) (runAll k embed' name u body))
    (xs : List Value) :
    AgreeUntil D E I (loopTexts h embed name s target condition body xs)
      (loopTexts k embed' name s target condition body xs) := by
  have hpasses : ∀ x, AgreeUntil D E I (itemPasses h name s target condition x)
      (itemPasses k name s target condition x) := itemPasses_until hh target condition
  rw [loopTexts, loopTexts]
  split
  · refine (keepEach_until hpasses xs).bind fun kept => ?_
    exact printIndexed_until (fun i => itemText_until hh hbody [("loop", .loop i kept.length)]) 0 kept
  · exact printEach_until hpasses (itemText_until hh hbody []) xs

theorem loopEnd_until {otherwise : List Stmt}
    (hotherwise : ∀ u,
      AgreeUntil D E I (runAll h embed name u otherwise) (runAll k embed' name u otherwise))
    (outs : List String) :
    AgreeUntil D E I (loopEnd h embed name s otherwise outs)
      (loopEnd k embed' name s otherwise outs) := by
  rw [loopEnd, loopEnd]
  split
  · exact (hotherwise (s.enter [] otherwise)).bind fun _ => .pure _
  · exact .pure _

theorem embedded_until (hh : h.AlikeUntil D E I k)
    (hembed : ∀ t l, AgreeUntil D E I (embed t l) (embed' t l)) (withContext : Bool)
    (found : Option Template) :
    AgreeUntil D E I (embedded h embed s withContext found)
      (embedded k embed' s withContext found) := by
  cases found with
  | none => exact .pure _
  | some t =>
    rw [embedded, embedded, hh.globals]
    exact (hembed t _).bind fun _ => .pure _

mutual

/-- What a statement prints, and the scope after it. -/
theorem stmt_until (hh : h.AlikeUntil D E I k)
    (hembed : ∀ t l, AgreeUntil D E I (embed t l) (embed' t l)) (name : Option String)
    (s : Scope) :
    (st : Stmt) → AgreeUntil D E I (st.run h embed name s) (st.run k embed' name s)
  | .text t => by
    rw [Stmt.run, Stmt.run]
    exact .pure _
  | .print e => by
    rw [Stmt.run, Stmt.run, hh.autoescape]
    exact (eval_until hh name e fun _ _ => rfl).bind fun _ => .pure _
  | .choose branches otherwise => by
    rw [Stmt.run, Stmt.run]
    refine (branches_until hh hembed name s branches).bind fun found => ?_
    cases found with
    | some done => exact .pure _
    | none => exact stmts_until hh hembed name s otherwise
  | .each target source condition body otherwise => by
    rw [run_each, run_each]
    refine (eval_until hh name source fun _ _ => rfl).bind fun _ => ?_
    refine (hh.ofExcept _).bind fun xs => ?_
    refine (loopTexts_until hh target condition (fun u => stmts_until hh hembed name u body) xs).bind
      fun outs => ?_
    exact loopEnd_until (fun u => stmts_until hh hembed name u otherwise) outs
  | .assign target e => by
    rw [Stmt.run, Stmt.run]
    refine (eval_until hh name e fun _ _ => rfl).bind fun _ => ?_
    exact (hh.ofExcept _).bind fun _ => .pure _
  | .capture target body => by
    rw [Stmt.run, Stmt.run, hh.autoescape]
    refine (stmts_until hh hembed name (s.enter [] body) body).bind fun _ => ?_
    exact (hh.ofExcept _).bind fun _ => .pure _
  | .embed e ignoreMissing withContext => by
    rw [run_embed, run_embed]
    refine (eval_until hh name e fun _ _ => rfl).bind fun a => ?_
    refine (wanted_until hh ignoreMissing a).bind fun found => ?_
    exact embedded_until hh hembed withContext found

theorem stmts_until (hh : h.AlikeUntil D E I k)
    (hembed : ∀ t l, AgreeUntil D E I (embed t l) (embed' t l)) (name : Option String)
    (s : Scope) :
    (sts : List Stmt) → AgreeUntil D E I (runAll h embed name s sts) (runAll k embed' name s sts)
  | [] => by
    rw [runAll, runAll]
    exact .pure _
  | st :: more => by
    rw [runAll, runAll]
    refine (stmt_until hh hembed name s st).bind fun done => ?_
    exact (stmts_until hh hembed name done.1 more).bind fun _ => .pure _

theorem branches_until (hh : h.AlikeUntil D E I k)
    (hembed : ∀ t l, AgreeUntil D E I (embed t l) (embed' t l)) (name : Option String)
    (s : Scope) :
    (branches : List (Expr × List Stmt)) →
      AgreeUntil D E I (runBranches h embed name s branches) (runBranches k embed' name s branches)
  | [] => by
    rw [runBranches, runBranches]
    exact .pure _
  | (e, body) :: more => by
    rw [runBranches, runBranches]
    refine (eval_until hh name e fun _ _ => rfl).bind fun a => ?_
    split
    · exact (stmts_until hh hembed name s body).map _
    · exact branches_until hh hembed name s more

end

end Statements

theorem runWithin_until (hh : h.AlikeUntil D E I k) (depth : Nat) (t : Template) (base : Locals) :
    AgreeUntil D E I (t.runWithin h depth base) (t.runWithin k depth base) := by
  induction depth generalizing t base with
  | zero => exact hh.fail _
  | succ depth ih =>
    rw [Template.runWithin, Template.runWithin]
    exact (stmts_until hh ih t.name (.ofLocals base t.body) t.body).bind fun _ => .pure _

/-- Over the same locals, a template runs alike under hosts that answer alike until they part. -/
theorem run_until (hh : h.AlikeUntil D E I k) (t : Template) (locals : Locals) :
    AgreeUntil D E I (t.run h locals) (t.run k locals) := by
  rw [Template.run, Template.run, hh.globals]
  exact runWithin_until hh includeDepth t _

theorem eval_same (hh : h.Alike E I k) (name : Option String) {s t : Scope} {e : Expr}
    (hst : ∀ n ∈ e.reads, s.value n = t.value n) :
    Agree E I (e.eval h name s) (e.eval k name t) :=
  agreeUntil_never.mp (eval_until hh.alikeUntil name e hst)

/-- Over the same locals, a template runs alike under hosts that answer alike. -/
theorem run_same (hh : h.Alike E I k) (t : Template) (locals : Locals) :
    Agree E I (t.run h locals) (t.run k locals) :=
  agreeUntil_never.mp (run_until hh.alikeUntil t locals)

end DeferredViews.Template
