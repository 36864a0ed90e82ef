import DeferredViews.Proofs.Books
import DeferredViews.Proofs.Equivalence
import DeferredViews.Proofs.Leaks
import DeferredViews.Proofs.Seams

/-!
# Which call an altered page is blamed on

A page of texts and of calls that are printed, piped through a filter, or used without being printed
issues one placeholder for each call, in order. A filter that leaves delimiters spoils the page:
some delimiter is left once all values are put in their places, and the render fails. It then names
the first call whose placeholder does not stand in the page, whether this call was piped or not
printed at all.
-/
namespace DeferredViews.Template

open Deferred

/-- A call of a helper by its name, with arguments that ask nothing of the host. -/
structure HelperCall where
  helper : String
  args : List Arg
  named : helper.isEmpty = false
  silent : ∀ {σ : Type} (h : Host σ) (template : Option String) (s : Scope),
    ∃ a, evalArguments h template s {} args = (pure a : Action σ Arguments)

def HelperCall.expr (c : HelperCall) : Expr := .call (.name c.helper) c.args

/-- A call without arguments. -/
def HelperCall.bare (helper : String) (named : helper.isEmpty = false) : HelperCall :=
  ⟨helper, [], named, fun _ _ _ => ⟨{}, by rw [evalArguments]⟩⟩

/-- A filter whose arguments are the same wherever it is applied. -/
structure Pipe where
  filter : String
  args : List Arg
  given : Arguments
  fixed : ∀ {σ : Type} (h : Host σ) (template : Option String) (s : Scope),
    evalArguments h template s {} args = (pure given : Action σ Arguments)

def Pipe.upper : Pipe := ⟨"upper", [], {}, fun _ _ _ => by rw [evalArguments]⟩

/-- What is printed of a placeholder that went through a filter. -/
def Pipe.output (escape : Bool) (p : Pipe) (token : String) : Except Fault String :=
  (applyFilter escape p.filter (.markup token) p.given).map (Value.printed escape)

theorem Pipe.exists_of_output {escape : Bool} {p : Pipe} {token t : String}
    (h : p.output escape token = .ok t) :
    ∃ v, applyFilter escape p.filter (.markup token) p.given = .ok v ∧
      Value.printed escape v = t := by
  rw [output] at h
  cases hfilter : applyFilter escape p.filter (.markup token) p.given with
  | error f =>
    rw [hfilter] at h
    cases h
  | ok v =>
    rw [hfilter] at h
    exact ⟨v, rfl, Except.ok.inj h⟩

/-- What becomes of a call. -/
inductive Use where
  | printed
  | piped
  | dropped
  deriving DecidableEq, Repr

/-- A part of a page: a text, or a call that is printed, piped through a filter, tested or
assigned. -/
inductive Part where
  | text (t : String)
  | printed (c : HelperCall)
  | piped (c : HelperCall) (p : Pipe)
  | tested (c : HelperCall) (yes no : List String)
  | assigned (name : String) (c : HelperCall)

namespace Part

def stmt : Part → Stmt
  | text t => .text t
  | printed c => .print c.expr
  | piped c p => .print (.filter c.expr p.filter p.args)
  | tested c yes no => .choose [(c.expr, yes.map .text)] (no.map .text)
  | assigned name c => .assign (.name name) c.expr

/-- The helper that a part calls, and what becomes of the call. -/
def use? : Part → Option (String × Use)
  | text _ => none
  | printed c => some (c.helper, .printed)
  | piped c _ => some (c.helper, .piped)
  | tested c _ _ => some (c.helper, .dropped)
  | assigned _ c => some (c.helper, .dropped)

/-- What a part prints if its call has this number. -/
def row (escape : Bool) (id : String) (n : Nat) : Part → Row
  | text t => .ofText t
  | printed _ => [.slot n]
  | piped _ p => .ofText ((p.output escape (placeholder id n)).toOption.getD "")
  | tested _ yes _ => .ofText (String.join yes)
  | assigned _ _ => []

/-- The filter of a piped part leaves a delimiter of the placeholder with this number. -/
def Alters (escape : Bool) (id : String) (n : Nat) : Part → Prop
  | piped _ p => ∃ t, p.output escape (placeholder id n) = .ok t ∧ tainted t.toList = true
  | _ => True

/-- The names that parts call are these, and none of them is assigned. -/
structure CallsAmong (names : List String) (part : Part) : Prop where
  uses : ∀ u, part.use? = some u → u.1 ∈ names
  assigns : ∀ name c, part = assigned name c → name ∉ names

end Part

/-- The calls of a page, in order. -/
def uses (parts : List Part) : List (String × Use) := parts.filterMap Part.use?

/-- The parts of a page, each with the number of calls before it. -/
def numberedFrom : Nat → List Part → List (Nat × Part)
  | _, [] => []
  | n, part :: more => (n, part) :: numberedFrom (n + part.use?.toList.length) more

/-- What a page prints whose calls are numbered from here on. -/
def pageRow (escape : Bool) (id : String) (n : Nat) (parts : List Part) : Row :=
  (numberedFrom n parts).flatMap fun x => x.2.row escape id x.1

theorem pageRow_cons (escape : Bool) (id : String) (n : Nat) (part : Part) (more : List Part) :
    pageRow escape id n (part :: more) =
      part.row escape id n ++ pageRow escape id (n + part.use?.toList.length) more := rfl

theorem uses_cons (part : Part) (more : List Part) :
    uses (part :: more) = part.use?.toList ++ uses more := by
  rw [uses, List.filterMap_cons]
  cases part.use? <;> rfl

theorem Part.slot_mem_row {escape : Bool} {id : String} {n m : Nat} {part : Part} :
    Mark.slot m ∈ part.row escape id n ↔ m = n ∧ ∃ helper, part.use? = some (helper, .printed) := by
  cases part with
  | printed c => simp [row, use?]
  | _ => simp [row, use?, Row.slot_notMem_ofText]

/-- The places in the row of a page are those of its printed calls. -/
theorem slot_mem_pageRow {escape : Bool} {id : String} {n m : Nat} {parts : List Part} :
    Mark.slot m ∈ pageRow escape id n parts ↔
      n ≤ m ∧ ∃ helper, (uses parts)[m - n]? = some (helper, .printed) := by
  induction parts generalizing n with
  | nil => simp [pageRow, numberedFrom, uses]
  | cons part more ih =>
    rw [pageRow_cons, List.mem_append, ih, uses_cons, Part.slot_mem_row]
    cases hu : part.use? with
    | none => simp
    | some u =>
      obtain ⟨helper, u⟩ := u
      rw [Option.toList_some, List.length_singleton, List.singleton_append]
      rcases Nat.lt_trichotomy m n with hlt | rfl | hgt
      · have hnot : ¬n ≤ m := Nat.not_le_of_lt hlt
        have hne : m ≠ n := Nat.ne_of_lt hlt
        have hnot' : ¬n + 1 ≤ m := fun h => hnot (Nat.le_of_succ_le h)
        simp [hne, hnot, hnot']
      · have hnot : ¬m + 1 ≤ m := Nat.not_succ_le_self m
        simp [hnot]
      · obtain ⟨k, rfl⟩ : ∃ k, m = n + 1 + k := ⟨m - (n + 1), by omega⟩
        have hne : n + 1 + k ≠ n := by omega
        have hfirst : n + 1 + k - (n + 1) = k := by omega
        have hsecond : n + 1 + k - n = k + 1 := by omega
        have hle : n ≤ n + 1 + k := by omega
        rw [hfirst, hsecond]
        simp [hne, hle]

/-- The page of a piped part whose filter leaves delimiters has one in its row. -/
theorem delimiter_mem_pageRow {escape : Bool} {id : String} {n : Nat} {parts : List Part}
    (halters : ∀ x ∈ numberedFrom n parts, x.2.Alters escape id x.1)
    (hpiped : ∃ helper, (helper, Use.piped) ∈ uses parts) :
    Mark.plain delimiter ∈ pageRow escape id n parts := by
  induction parts generalizing n with
  | nil => simp [uses] at hpiped
  | cons part more ih =>
    rw [pageRow_cons, List.mem_append]
    by_cases hpart : ∃ helper, part.use? = some (helper, Use.piped)
    · cases part with
      | piped c p =>
        obtain ⟨t, ht, htainted⟩ := halters (n, .piped c p) List.mem_cons_self
        refine .inl ?_
        rw [Part.row, ht]
        exact List.mem_map.mpr ⟨delimiter, List.contains_iff_mem.mp htainted, rfl⟩
      | _ => simp [Part.use?] at hpart
    · refine .inr (ih (fun x hx => halters x (List.mem_cons_of_mem _ hx)) ?_)
      obtain ⟨helper, hmem⟩ := hpiped
      rw [uses_cons, List.mem_append] at hmem
      refine ⟨helper, hmem.resolve_left fun hhead => hpart ⟨helper, ?_⟩⟩
      simpa using hhead

/-- Texts print themselves one after the other. -/
theorem runAll_texts {σ : Type} (h : Host σ) (embed : Template → Locals → Action σ String)
    (template : Option String) (scope : Scope) (ts : List String) :
    runAll h embed template scope (ts.map .text) = pure (scope, String.join ts) := by
  induction ts with
  | nil => rw [List.map_nil, runAll, String.join_nil]
  | cons t ts ih =>
    rw [List.map_cons, runAll, Stmt.run, pure_bind]
    dsimp only
    rw [ih, pure_bind, String.join_cons]

theorem Frame.lookup_set_of_ne (f : Frame) {name other : String} (v : Option Value)
    (h : other ≠ name) : (f.set name v).lookup other = f.lookup other := by
  have hset : f.set name v = View.bindName name v f := by
    induction f with
    | nil => rfl
    | cons entry f ih => rw [Frame.set, View.bindName, ih]
  rw [hset, View.lookup_bindName_of_ne v f h]

/-- To assign one name leaves the others as they are. -/
theorem Scope.value_assign_of_ne (scope : Scope) {name other : String} (v : Value)
    (h : other ≠ name) : (scope.assign name v).value other = scope.value other := by
  obtain ⟨frames, base, mentioned⟩ := scope
  cases frames with
  | nil =>
    have hframe := Frame.lookup_set_of_ne [] (some v) h
    rw [Frame.set] at hframe
    rw [Scope.assign, Scope.value, Scope.value, List.findSome?_cons, hframe]
    rfl
  | cons f frames =>
    rw [Scope.assign, Scope.value, Scope.value, List.findSome?_cons, List.findSome?_cons,
      f.lookup_set_of_ne (some v) h]

end DeferredViews.Template

namespace DeferredViews.View

open Deferred Template

/-- A scope has helpers that answer under these names. -/
def KnowsHelpers (deadline : Option Deadline) (helpers : List Helper) (names : List String)
    (scope : Scope) : Prop :=
  ∀ n ∈ names, ∃ i h, scope.value n = .function (.deferred n i) ∧ helpers[i]? = some h ∧
    h.Answers deadline

/-- A site on which nothing was done since but to put these calls off to a registry. -/
structure Site.PutOff (s : Site) (q : Nat) (id : String) (calls : List Pending) (t : Site) :
    Prop where
  site : t = { s with activity := t.activity }
  helpers : t.activity.helpers = s.activity.helpers
  room : q < t.activity.registries.length
  registry : t.activity.registry q =
    ⟨id, calls.length, calls, calls.map fun c => (c.token, c.name)⟩
  numbered : Numbered id calls

section Running

variable {deadline : Option Deadline} {s t : Site} {q : Nat} {id : String} {calls : List Pending}
  {names : List String} {e : Nat} {engine : Engine}

/-- A call is put off under its name, and its placeholder is the next one. -/
theorem Site.PutOff.register (ht : s.PutOff q id calls t) {name : String}
    (hname : name.isEmpty = false) (i : Nat) (args : List Value) (kwargs : Locals) :
    (t.activity.register q name i args kwargs).1 = placeholder id calls.length ∧
      s.PutOff q id (calls ++ [⟨placeholder id calls.length, name, i, args, kwargs⟩])
        { t with activity := (t.activity.register q name i args kwargs).2 } := by
  have hregister : t.activity.register q name i args kwargs =
      (placeholder id calls.length, t.activity.setRegistry q
        ((t.activity.registry q).register name i args kwargs).2) := by
    rw [Activity.register, hname, ht.registry]
    rfl
  rw [hregister]
  refine ⟨rfl, ?_, ht.helpers, ?_, ?_, ht.numbered.push rfl⟩
  · rw [ht.site]
  · show q < (t.activity.registries.set q _).length
    rw [List.length_set]
    exact ht.room
  · show (t.activity.setRegistry q _).registry q = _
    rw [t.activity.registry_setRegistry_self q _ ht.room, ht.registry, Registry.register]
    simp

theorem Site.PutOff.eval_call (ht : s.PutOff q id calls t) {c : HelperCall} {scope : Scope}
    (hknows : KnowsHelpers deadline s.activity.helpers names scope) (hc : c.helper ∈ names)
    (e : Nat) (engine : Engine) (template : Option String) :
    ∃ new u, c.expr.eval (hostFor e engine (some q)) template scope t =
        (.ok (.markup (placeholder id calls.length)), u) ∧
      s.PutOff q id (calls ++ new) u ∧ new.map (·.name) = [c.helper] ∧
      ∀ call ∈ new, Answered deadline s.activity.helpers call := by
  obtain ⟨i, h, hvalue, hhelper, hanswers⟩ := hknows c.helper hc
  obtain ⟨a, ha⟩ := c.silent (hostFor e engine (some q)) template scope
  obtain ⟨htoken, hnext⟩ := ht.register c.named i a.args a.kwargs
  refine ⟨[⟨placeholder id calls.length, c.helper, i, a.args, a.kwargs⟩], _, ?_, hnext, rfl, ?_⟩
  · rw [← htoken, HelperCall.expr, Expr.eval, Expr.eval, hvalue, pure_bind, ha, pure_bind]
    rfl
  · intro call hcall
    rw [List.mem_singleton.mp hcall]
    exact ⟨h, hhelper, hanswers⟩

theorem truthy_placeholder (id : String) (n : Nat) :
    Value.truthy (.markup (placeholder id n)) = true := by
  have hne : placeholder id n ≠ "" := by
    rw [Ne, ← String.toList_inj, toList_placeholder]
    exact List.cons_ne_nil _ _
  simpa [Value.truthy] using hne

/-- What a part does: it prints its text, puts its call off, and leaves the helpers known. -/
theorem Site.PutOff.run_part (ht : s.PutOff q id calls t) {part : Part} {scope : Scope}
    (hknows : KnowsHelpers deadline s.activity.helpers names scope) (hpart : part.CallsAmong names)
    (halters : part.Alters engine.autoescape id calls.length)
    (embed : Template → Locals → Action Site String) (template : Option String) :
    ∃ new scope' u, part.stmt.run (hostFor e engine (some q)) embed template scope t =
        (.ok (scope', (part.row engine.autoescape id calls.length).text id), u) ∧
      s.PutOff q id (calls ++ new) u ∧ new.map (·.name) = part.use?.toList.map (·.1) ∧
      (∀ c ∈ new, Answered deadline s.activity.helpers c) ∧
      KnowsHelpers deadline s.activity.helpers names scope' := by
  have hescape : (hostFor e engine (some q)).autoescape = engine.autoescape := rfl
  cases part with
  | text x =>
    refine ⟨[], scope, t, ?_, ?_, rfl, nofun, hknows⟩
    · rw [Part.stmt, Stmt.run, Part.row, Row.text_ofText]
      rfl
    · rwa [List.append_nil]
  | printed c =>
    obtain ⟨new, u, heval, hu, hnames, hanswered⟩ :=
      ht.eval_call hknows (hpart.uses _ rfl) e engine template
    refine ⟨new, scope, u, ?_, hu, hnames, hanswered, hknows⟩
    rw [Part.stmt, Stmt.run, bind_apply, heval, hescape]
    dsimp only
    rw [Value.printed_markup, Part.row, Row.text_slot, pure_apply]
  | piped c p =>
    obtain ⟨new, u, heval, hu, hnames, hanswered⟩ :=
      ht.eval_call hknows (hpart.uses _ rfl) e engine template
    refine ⟨new, scope, u, ?_, hu, hnames, hanswered, hknows⟩
    obtain ⟨x, hx, -⟩ := halters
    obtain ⟨v, hfilter, rfl⟩ := Pipe.exists_of_output hx
    rw [Part.stmt, Stmt.run, Expr.eval, bind_apply, bind_apply, heval, p.fixed, hescape]
    dsimp only
    rw [pure_bind, hfilter, Part.row, hx, Row.text_ofText]
    rfl
  | tested c yes no =>
    obtain ⟨new, u, heval, hu, hnames, hanswered⟩ :=
      ht.eval_call hknows (hpart.uses _ rfl) e engine template
    refine ⟨new, scope, u, ?_, hu, hnames, hanswered, hknows⟩
    rw [Part.stmt, Stmt.run, bind_apply, runBranches, bind_apply, heval]
    dsimp only
    rw [if_pos (truthy_placeholder id calls.length), runAll_texts, Part.row, Row.text_ofText]
    rfl
  | assigned name c =>
    obtain ⟨new, u, heval, hu, hnames, hanswered⟩ :=
      ht.eval_call hknows (hpart.uses _ rfl) e engine template
    refine ⟨new, scope.assign name (.markup (placeholder id calls.length)), u, ?_, hu, hnames,
      hanswered, ?_⟩
    · rw [Part.stmt, Stmt.run, bind_apply, heval]
      rfl
    · intro n hn
      have hne : n ≠ name := by
        rintro rfl
        exact hpart.assigns n c rfl hn
      rw [scope.value_assign_of_ne _ hne]
      exact hknows n hn

/-- What a page does, part by part: it prints the text of its row and puts its calls off. -/
theorem Site.PutOff.run_parts (ht : s.PutOff q id calls t) {parts : List Part} {scope : Scope}
    (hknows : KnowsHelpers deadline s.activity.helpers names scope)
    (hparts : ∀ part ∈ parts, part.CallsAmong names)
    (halters : ∀ x ∈ numberedFrom calls.length parts, x.2.Alters engine.autoescape id x.1)
    (embed : Template → Locals → Action Site String) (template : Option String) :
    ∃ new scope' u,
      runAll (hostFor e engine (some q)) embed template scope (parts.map Part.stmt) t =
        (.ok (scope', (pageRow engine.autoescape id calls.length parts).text id), u) ∧
      s.PutOff q id (calls ++ new) u ∧ new.map (·.name) = (uses parts).map (·.1) ∧
      ∀ c ∈ new, Answered deadline s.activity.helpers c := by
  induction parts generalizing calls t scope with
  | nil =>
    refine ⟨[], scope, t, ?_, ?_, rfl, nofun⟩
    · rw [List.map_nil, runAll]
      rfl
    · rwa [List.append_nil]
  | cons part more ih =>
    obtain ⟨new, scope', u, hrun, hu, hnames, hanswered, hknows'⟩ :=
      ht.run_part hknows (hparts part List.mem_cons_self) (halters _ List.mem_cons_self) embed
        template (e := e)
    have hlength : (calls ++ new).length = calls.length + part.use?.toList.length := by
      have hcount := congrArg List.length hnames
      rw [List.length_map, List.length_map] at hcount
      rw [List.length_append, hcount]
    obtain ⟨new', scope'', v, hrun', hv, hnames', hanswered'⟩ :=
      ih hu hknows' (fun p hp => hparts p (List.mem_cons_of_mem _ hp))
        (fun x hx => halters x (List.mem_cons_of_mem _ (hlength ▸ hx)))
    refine ⟨new ++ new', scope'', v, ?_, ?_, ?_, ?_⟩
    · rw [List.map_cons, runAll, bind_apply, hrun]
      dsimp only
      rw [bind_apply, hrun']
      dsimp only
      rw [pure_apply, pageRow_cons, Row.text_append, hlength]
    · rwa [← List.append_assoc]
    · rw [List.map_append, hnames, hnames', uses_cons, List.map_append]
    · intro c hc
      exact (List.mem_append.mp hc).elim (hanswered c) (hanswered' c)

end Running

/-- The first call whose place a row does not have is the first altered one. -/
theorem firstAltered_numbered {id : String} {calls : List Pending} (hnumbered : Numbered id calls)
    {row : Row} (hseams : row.Seamless id calls.length) {k : Nat} (hk : k < calls.length)
    (hmissing : Mark.slot k ∉ row) (hbefore : ∀ j < k, Mark.slot j ∈ row) :
    firstAltered (row.text id) (calls.map (·.token)) = some (placeholder id k) := by
  have htoken : ∀ j (hj : j < calls.length), calls[j].token = placeholder id j := fun j hj =>
    hnumbered j _ (List.getElem?_eq_getElem hj)
  rw [firstAltered, List.find?_eq_some_iff_append]
  refine ⟨?_, (calls.take k).map (·.token), (calls.drop (k + 1)).map (·.token), ?_, ?_⟩
  · rw [hseams.occurs hk, decide_eq_false hmissing]
    rfl
  · rw [← htoken k hk, ← List.map_cons, ← List.map_append, List.getElem_cons_drop,
      List.take_append_drop]
  · intro t ht
    obtain ⟨d, hd, rfl⟩ := List.mem_map.mp ht
    obtain ⟨j, hj, rfl⟩ := List.getElem_of_mem hd
    rw [List.length_take] at hj
    have hjk : j < k := by omega
    have hjl : j < calls.length := by omega
    rw [List.getElem_take, htoken j hjl, hseams.occurs hjl, decide_eq_true (hbefore j hjk)]
    rfl

/-- A page with a delimiter left over is blamed on the first call whose place it does not have. -/
theorem complete_blames {deadline : Option Deadline} {id : String} (hid : IsRegistryId id)
    {helpers : List Helper} {calls : List Pending} (hnumbered : Numbered id calls)
    (hanswered : ∀ c ∈ calls, Answered deadline helpers c) {row : Row}
    (hseams : row.Seamless id calls.length) (hdelimiter : Mark.plain delimiter ∈ row) {k : Nat}
    {c : Pending} (hk : calls[k]? = some c) (hmissing : Mark.slot k ∉ row)
    (hbefore : ∀ j < k, Mark.slot j ∈ row) (r : Request) {q : Nat} {s : Site}
    (hnames : (s.activity.registry q).names = calls.map fun c => (c.token, c.name)) :
    (complete r q (row.text id) (calls.map fun c => (c.token, outcomeText (c.given helpers))) s).1 =
      .error (.failure (.helper c.name
        "placeholder was altered during rendering (was a filter applied to it?)" none)) := by
  obtain ⟨hlength, -⟩ := List.getElem?_eq_some_iff.mp hk
  have hvalues : calls.map (fun c => (c.token, outcomeText (c.given helpers))) ≠ [] := by
    rw [Ne, List.map_eq_nil_iff]
    rintro rfl
    exact Nat.not_lt_zero k hlength
  have hleft : tainted (substitute (calls.map fun c => (c.token, outcomeText (c.given helpers)))
      (row.text id)).toList = true := by
    refine hseams.tainted_substitute ?_ ?_ hdelimiter
    · intro p hp
      obtain ⟨d, hd, rfl⟩ := List.mem_map.mp hp
      obtain ⟨j, hj, rfl⟩ := List.getElem_of_mem hd
      exact ⟨j, hj, hnumbered j _ (List.getElem?_eq_getElem hj)⟩
    · intro p hp
      obtain ⟨d, hd, rfl⟩ := List.mem_map.mp hp
      obtain ⟨v, hv, huntainted, -⟩ := (hanswered d hd).given
      rw [hv]
      exact huntainted
  have hlookup := lookup_numbered hid hnumbered (·.name) k
  rw [hk, ← hnames] at hlookup
  rw [complete_eq r q _ hvalues, if_pos hleft, alteration, List.map_map]
  show Except.error (Stop.failure (.helper ((firstAltered (row.text id)
    (calls.map (·.token))).elim "<unknown>" _) _ none)) = _
  rw [firstAltered_numbered hnumbered hseams hlength hmissing hbefore]
  show Except.error (Stop.failure (.helper ((s.activity.registry q).helperName _) _ none)) = _
  rw [Registry.helperName, hlookup]
  rfl

/-- A template prints what its statements print over the global names and its locals. -/
theorem run_of_runAll {c : Compiled} {open? : Option Nat} {locals : Locals} {s t : Site}
    {scope : Scope} {out : String}
    (h : runAll (hostFor c.engine (s.engine c.engine) open?)
      (Template.runWithin (hostFor c.engine (s.engine c.engine) open?) 899) c.template.name
      (.ofLocals ((s.engine c.engine).globals.update locals) c.template.body) c.template.body s =
        (.ok (scope, out), t)) :
    c.run open? locals s = (.ok out, t) := by
  have hglobals : (hostFor c.engine (s.engine c.engine) open?).globals =
    (s.engine c.engine).globals := rfl
  rw [Compiled.run, Template.run, includeDepth, Template.runWithin, bind_apply, hglobals, h]
  rfl

/-- A render without a layout whose page is of these parts. Its helpers answer, and its filters
leave delimiters. -/
structure Site.Presents (deadline : Option Deadline) (r : Request) (parts : List Part) (s : Site) :
    Prop where
  layout : s.layoutFor r = .ok none
  page : ∃ name, s.pageFor r = .ok ⟨r.engine, name, parts.map Part.stmt⟩
  timeout : deadlineOf (s.engine r.engine).timeout = .ok deadline
  id : IsRegistryId (s.activity.ids s.activity.registries.length)
  helpers : KnowsHelpers deadline s.activity.helpers ((uses parts).map (·.1))
    (.ofLocals ((s.engine r.engine).globals.update (s.optionsAt r.options)) (parts.map Part.stmt))
  assigns : ∀ name c, Part.assigned name c ∈ parts → name ∉ (uses parts).map (·.1)
  alters : ∀ x ∈ numberedFrom 0 parts,
    x.2.Alters (s.engine r.engine).autoescape (s.activity.ids s.activity.registries.length) x.1

/-- What a page of these parts prints in a render. -/
def Site.rowOf (s : Site) (r : Request) (parts : List Part) : Row :=
  pageRow (s.engine r.engine).autoescape (s.activity.ids s.activity.registries.length) 0 parts

namespace Site.Presents

variable {deadline : Option Deadline} {r : Request} {parts : List Part} {s : Site}

/-- The page prints its row and puts its calls off. -/
theorem execute (h : s.Presents deadline r parts) :
    ∃ name calls t, s.pageFor r = .ok ⟨r.engine, name, parts.map Part.stmt⟩ ∧
      View.execute r s.activity.registries.length ⟨r.engine, name, parts.map Part.stmt⟩ r.path
          s.opened =
        (.ok ((s.rowOf r parts).text (s.activity.ids s.activity.registries.length)), t) ∧
      s.opened.PutOff s.activity.registries.length (s.activity.ids s.activity.registries.length)
        calls t ∧
      calls.map (·.name) = (uses parts).map (·.1) ∧
      ∀ c ∈ calls, Answered deadline s.activity.helpers c := by
  obtain ⟨name, hpage⟩ := h.page
  have hopened : s.opened.PutOff s.activity.registries.length
      (s.activity.ids s.activity.registries.length) [] s.opened :=
    ⟨rfl, rfl, s.room_opened, s.registry_opened, nofun⟩
  have hparts : ∀ part ∈ parts, part.CallsAmong ((uses parts).map (·.1)) := by
    intro part hpart
    refine ⟨fun u hu => ?_, ?_⟩
    · exact List.mem_map_of_mem (List.mem_filterMap.mpr ⟨part, hpart, hu⟩)
    · rintro name c rfl
      exact h.assigns name c hpart
  obtain ⟨calls, scope, t, hrun, ht, hnames, hanswered⟩ := hopened.run_parts (e := r.engine)
    h.helpers hparts h.alters
    (Template.runWithin
      (hostFor r.engine (s.engine r.engine) (some s.activity.registries.length)) 899) name
  refine ⟨name, calls, t, hpage, ?_, ht, hnames, hanswered⟩
  have hcompiled : (⟨r.engine, name, parts.map Part.stmt⟩ : Compiled).run
      (some s.activity.registries.length) (s.opened.optionsAt r.options) s.opened =
      (.ok ((s.rowOf r parts).text (s.activity.ids s.activity.registries.length)), t) :=
    run_of_runAll hrun
  rw [execute_apply, hcompiled]

/-- The render completes the page with the values of all its calls. -/
theorem render_eq_complete (h : s.Presents deadline r parts) (hcalls : uses parts ≠ []) :
    ∃ calls t, Numbered (s.activity.ids s.activity.registries.length) calls ∧
      calls.map (·.name) = (uses parts).map (·.1) ∧
      (∀ c ∈ calls, Answered deadline s.activity.helpers c) ∧
      (t.activity.registry s.activity.registries.length).names =
        calls.map (fun c => (c.token, c.name)) ∧
      (render r s).1 = (complete r s.activity.registries.length
        ((s.rowOf r parts).text (s.activity.ids s.activity.registries.length))
        (calls.map fun c => (c.token, outcomeText (c.given s.activity.helpers))) t).1 := by
  obtain ⟨name, calls, t, hpage, hexecute, ht, hnames, hanswered⟩ := h.execute
  have hne : calls ≠ [] := by
    rintro rfl
    exact hcalls (List.map_eq_nil_iff.mp hnames.symm)
  have htimeout : deadlineOf (t.engine r.engine).timeout = .ok deadline := by
    rw [ht.site]
    exact h.timeout
  have hhelpers : t.activity.helpers = s.activity.helpers := ht.helpers
  have hpending : (t.activity.registry s.activity.registries.length).pending = calls := by
    rw [ht.registry]
  have hpatience : slowest t.activity.helpers + 2 ≤ patience s := by
    rw [hhelpers, patience_eq_slowest]
    omega
  have hclosed := closePage_answered (r := r)
    ((s.rowOf r parts).text (s.activity.ids s.activity.registries.length)) hpending hne htimeout
    (fun c hc => hhelpers ▸ hanswered c hc) hpatience
  have hstages : Stage.after (runPage r s.activity.registries.length none
      ⟨r.engine, name, parts.map Part.stmt⟩ s.opened) =
      Stage.after (closePage r s.activity.registries.length
        ((s.rowOf r parts).text (s.activity.ids s.activity.registries.length)) t) := by
    rw [runPage_eq, after_bind_apply, pageText, bind_apply, hexecute]
    rfl
  refine ⟨calls, { t with activity := (t.activity.takePending s.activity.registries.length).2 },
    ht.numbered, hnames, hanswered, ?_, ?_⟩
  · rw [t.activity.names_takePending, ht.registry]
  · rw [render_eq, h.layout]
    show (s.pageFor r).bind (s.printed r none) = _
    rw [hpage]
    show s.printed r none _ = _
    rw [Site.printed, hstages, hclosed, hhelpers]
    rfl

end Site.Presents

/-- Where a call is piped there is a first one that is not printed. It is piped just if all calls
before the first piped one are printed. -/
theorem exists_first_unprinted {calls : List (String × Use)}
    (hpiped : ∃ helper, (helper, Use.piped) ∈ calls) :
    ∃ before name use after, calls = before ++ (name, use) :: after ∧
      (∀ x ∈ before, x.2 = .printed) ∧ use ≠ .printed ∧
      (use = .piped ↔ ∀ x ∈ calls.takeWhile fun x => decide (x.2 ≠ .piped), x.2 = .printed) := by
  obtain ⟨x, hx⟩ : ∃ x, calls.find? (fun x => decide (x.2 ≠ Use.printed)) = some x := by
    rw [← Option.isSome_iff_exists, List.find?_isSome]
    obtain ⟨helper, hmem⟩ := hpiped
    exact ⟨(helper, .piped), hmem, rfl⟩
  rw [List.find?_eq_some_iff_append] at hx
  obtain ⟨huse, before, after, rfl, hbefore⟩ := hx
  have huse : x.2 ≠ .printed := of_decide_eq_true huse
  have hbefore : ∀ y ∈ before, y.2 = .printed := by
    intro y hy
    simpa using hbefore y hy
  have hunpiped : ∀ y ∈ before, decide (y.2 ≠ .piped) = true := by
    intro y hy
    rw [hbefore y hy]
    rfl
  refine ⟨before, x.1, x.2, after, rfl, hbefore, huse, ?_⟩
  rw [List.takeWhile_append_of_pos hunpiped]
  constructor
  · intro hpiped
    rwa [List.takeWhile_cons_of_neg (by simp [hpiped]), List.append_nil]
  · intro hfirst
    by_contra hnot
    refine huse (hfirst x ?_)
    rw [List.takeWhile_cons_of_pos (by simp [hnot])]
    exact List.mem_append_right _ List.mem_cons_self

/-- A page with a piped call whose filter leaves a delimiter fails its render, unless texts spell
out placeholders at their seams. The render names the first call that is not printed whole. So it
names a piped call just if all calls before the first piped one are printed; otherwise it names a
call that went through no filter. -/
theorem render_blames_first_unprinted {deadline : Option Deadline} {r : Request} {parts : List Part}
    {s : Site} (h : s.Presents deadline r parts)
    (hseams : (s.rowOf r parts).Seamless
      (s.activity.ids s.activity.registries.length) (uses parts).length)
    (hpiped : ∃ helper, (helper, Use.piped) ∈ uses parts) :
    ∃ before name use after, uses parts = before ++ (name, use) :: after ∧
      (∀ x ∈ before, x.2 = .printed) ∧ use ≠ .printed ∧
      (render r s).1 = .error (.failure (.helper name
        "placeholder was altered during rendering (was a filter applied to it?)" none)) ∧
      (use = .piped ↔
        ∀ x ∈ (uses parts).takeWhile fun x => decide (x.2 ≠ .piped), x.2 = .printed) := by
  obtain ⟨before, name, use, after, hsplit, hbefore, huse, hfirst⟩ := exists_first_unprinted hpiped
  have hsome : uses parts ≠ [] := by
    rw [hsplit]
    exact List.append_ne_nil_of_right_ne_nil _ (List.cons_ne_nil _ _)
  obtain ⟨calls, t, hnumbered, hnames, hanswered, hrecorded, hrender⟩ := h.render_eq_complete hsome
  have hlength : calls.length = (uses parts).length := by
    have hcount := congrArg List.length hnames
    rwa [List.length_map, List.length_map] at hcount
  have hk : (uses parts)[before.length]? = some (name, use) := by
    rw [hsplit]
    simp
  obtain ⟨c, hc, rfl⟩ : ∃ c, calls[before.length]? = some c ∧ c.name = name := by
    have hmap := congrArg (fun names => names[before.length]?) hnames
    rw [List.getElem?_map, List.getElem?_map, hk] at hmap
    exact Option.map_eq_some_iff.mp hmap
  -- The row has places for the calls before it, but none for it.
  have hmissing : Mark.slot before.length ∉ s.rowOf r parts := by
    rw [Site.rowOf, slot_mem_pageRow]
    rintro ⟨-, helper, hhelper⟩
    rw [Nat.sub_zero, hk] at hhelper
    cases hhelper
    exact huse rfl
  have hplaces : ∀ j < before.length, Mark.slot j ∈ s.rowOf r parts := by
    intro j hj
    rw [Site.rowOf, slot_mem_pageRow]
    refine ⟨Nat.zero_le j, before[j].1, ?_⟩
    rw [Nat.sub_zero, hsplit, List.getElem?_append_left hj, List.getElem?_eq_getElem hj,
      ← hbefore before[j] (List.getElem_mem hj)]
  refine ⟨before, c.name, use, after, hsplit, hbefore, huse, ?_, hfirst⟩
  rw [hrender]
  exact complete_blames h.id hnumbered hanswered (hlength ▸ hseams)
    (delimiter_mem_pageRow h.alters hpiped) hc hmissing hplaces r hrecorded

/-- A helper that answers at once with a text. -/
def answering (name text : String) : Helper :=
  { name, doc := none, isTask := true, pauses := 0, body := fun _ => .value (.str text) }

theorem answering_answers (name : String) {text : String} (h : tainted text.toList = false) :
    (answering name text).Answers none :=
  ⟨fun _ _ => ⟨.str text, fun _ => rfl, h⟩, nofun⟩

/-- Two helpers that answer, and a page in the cache that is rendered without a layout. -/
def pairSite (page : Compiled) : Site :=
  { files := ⟨[], []⟩
    engines :=
      [{ cache := 0
         partialExtensions := []
         globals := [("a", .function (.deferred "a" 0)), ("b", .function (.deferred "b" 1))] }]
    caches := [⟨[(("file", "/v/page.html"), page)]⟩]
    options := [[("layout", .bool false)]]
    activity := { ids := fun _ => "c0", helpers := [answering "a" "A", answering "b" "B"] } }

/-- A page that prints one helper, prints the other in upper case, and tests the first once more. -/
def shoutParts : List Part :=
  [.text "<p>", .printed (.bare "a" rfl), .piped (.bare "b" rfl) .upper,
    .tested (.bare "a" rfl) ["!"] []]

theorem presents_shoutParts :
    (pairSite ⟨0, none, shoutParts.map Part.stmt⟩).Presents none ⟨0, "/v/page.html", 0⟩
      shoutParts where
  layout := rfl
  page := ⟨none, rfl⟩
  timeout := rfl
  id := .of_all (by decide) (by decide)
  helpers := by
    have hnames : (uses shoutParts).map (·.1) = ["a", "b", "a"] := rfl
    have ha : (answering "a" "A").Answers none := answering_answers "a" (by decide)
    have hb : (answering "b" "B").Answers none := answering_answers "b" (by decide)
    intro n hn
    rw [hnames] at hn
    rcases List.mem_cons.mp hn with rfl | hn
    · exact ⟨0, _, rfl, rfl, ha⟩
    · rcases List.mem_cons.mp hn with rfl | hn
      · exact ⟨1, _, rfl, rfl, hb⟩
      · rw [List.mem_singleton.mp hn]
        exact ⟨0, _, rfl, rfl, ha⟩
  assigns := by simp [shoutParts]
  alters := by
    have hpiped : Pipe.upper.output true (placeholder "c0" 1) = .ok "\u001aC0:1\u001a" :=
      eq_ok_of_toOption (by decide +kernel)
    simp only [shoutParts, numberedFrom, List.forall_mem_cons]
    exact ⟨trivial, trivial, ⟨_, hpiped, by decide⟩, trivial, nofun⟩

/-- The piped call is the first that is not printed, so it is blamed. -/
theorem render_shoutParts :
    (pairSite ⟨0, none, shoutParts.map Part.stmt⟩).Presents none ⟨0, "/v/page.html", 0⟩ shoutParts ∧
      ((pairSite ⟨0, none, shoutParts.map Part.stmt⟩).rowOf ⟨0, "/v/page.html", 0⟩
        shoutParts).Seamless "c0" 3 ∧
      ("b", Use.piped) ∈ uses shoutParts ∧
      (render ⟨0, "/v/page.html", 0⟩ (pairSite ⟨0, none, shoutParts.map Part.stmt⟩)).1 =
        .error (.failure (.helper "b"
          "placeholder was altered during rendering (was a filter applied to it?)" none)) := by
  have hseams : ((pairSite ⟨0, none, shoutParts.map Part.stmt⟩).rowOf
      ⟨0, "/v/page.html", 0⟩ shoutParts).Seamless "c0" 3 :=
    Row.seamless_of_unspelled presents_shoutParts.id (by decide +kernel)
  have huses : uses shoutParts = [("a", .printed), ("b", .piped), ("a", .dropped)] := rfl
  have hpiped : ("b", Use.piped) ∈ uses shoutParts := by
    rw [huses]
    exact List.mem_cons_of_mem _ List.mem_cons_self
  refine ⟨presents_shoutParts, hseams, hpiped, ?_⟩
  obtain ⟨before, name, use, after, hsplit, hbefore, huse, hrender, -⟩ :=
    render_blames_first_unprinted presents_shoutParts hseams ⟨"b", hpiped⟩
  rw [huses] at hsplit
  rcases before with _ | ⟨x, _ | ⟨y, before⟩⟩
  · cases hsplit
    exact absurd rfl huse
  · cases hsplit
    exact hrender
  · obtain ⟨-, hsplit⟩ := List.cons.inj hsplit
    obtain ⟨rfl, -⟩ := List.cons.inj hsplit
    cases hbefore _ (List.mem_cons_of_mem _ List.mem_cons_self)

/-- A page that tests one helper and prints the other in upper case. -/
def testedFirst : List Part := [.tested (.bare "a" rfl) [] [], .piped (.bare "b" rfl) .upper]

/-- A call that is only tested is blamed for the filter that another call went through. -/
theorem tested_call_blamed :
    uses testedFirst = [("a", .dropped), ("b", .piped)] ∧
      (render ⟨0, "/v/page.html", 0⟩ (pairSite ⟨0, none, testedFirst.map Part.stmt⟩)).1 =
        .error (.failure (.helper "a"
          "placeholder was altered during rendering (was a filter applied to it?)" none)) ∧
      (render ⟨0, "/v/page.html", 0⟩
          (pairSite (compiledSource "{% if a() %}{% endif %}{{ b()|upper }}"))).1 =
        .error (.failure (.helper "a"
          "placeholder was altered during rendering (was a filter applied to it?)" none)) := by
  decide +kernel

/-- Two placeholders, each without its first delimiter, side by side spell out the second one. -/
example :
    (render ⟨0, "/v/page.html", 0⟩
        (pairSite (compiledSource ("\x7b\x7b b()|replace('\\x1a', '', 1) \x7d\x7d" ++
          "\x7b\x7b a()|replace('\\x1a', '', 1) \x7d\x7d")))).1 = .ok "c0:0A" := by
  decide +kernel

end DeferredViews.View
