import DeferredViews.Proofs.Isolation
import DeferredViews.Proofs.Leaks
import DeferredViews.Proofs.Locals
import DeferredViews.Proofs.UnreadNames

/-!
# Pages in layouts that only wrap them

A layout that puts a text before and a text after its `body`, both free of delimiters, commutes with
rendering. The page is taken apart at the seams as without the layout, so the same placeholders get
their values, the same delimiters are left over, and the same helper is named for one. A render with
the layout ends well exactly if the render without it does, with the texts around its page, and
fails with the same error otherwise.
-/
namespace DeferredViews.Deferred

open Text

/-! ## The pieces of a wrapped page -/

section Wrapped

variable {before page after : List Char}

/-- What can be read ends with a delimiter. -/
theorem readInside_ends {s inside rest : List Char} (h : readInside s = some (inside, rest)) :
    ∃ id number, id ≠ [] ∧ (∀ c ∈ id, isIdChar c = true) ∧ number ≠ [] ∧
      (∀ c ∈ number, isDigit c = true) ∧ inside = id ++ ':' :: number ++ [delimiter] := by
  unfold readInside at h
  split at h
  · next c id more hid hmore =>
    split at h
    · next d number e after' hnumber hafter =>
      split at h
      · obtain ⟨hinside, -⟩ := Prod.mk.inj (Option.some.inj h)
        exact ⟨c :: id, d :: number, List.cons_ne_nil _ _,
          fun x hx => List.all_eq_true.mp List.all_takeWhile x (hid ▸ hx), List.cons_ne_nil _ _,
          fun x hx => List.all_eq_true.mp List.all_takeWhile x (hnumber ▸ hx), hinside.symm⟩
      · cases h
    · cases h
  · cases h

theorem delimiter_notMem (h : tainted after = false) : delimiter ∉ after := by
  simpa [tainted] using h

/-- A text that ends with a delimiter does not reach into what has none. -/
theorem prefix_of_append_eq {x y : List Char} (hafter : tainted after = false)
    (h : page ++ after = x ++ [delimiter] ++ y) :
    ∃ z, page = x ++ [delimiter] ++ z ∧ y = z ++ after := by
  rcases List.append_eq_append_iff.mp h with ⟨z, hx, hy⟩ | ⟨z, hpage, hy⟩
  · rcases z.eq_nil_or_concat with rfl | ⟨z, c, rfl⟩
    · exact ⟨[], by simpa using hx.symm, by simpa using hy.symm⟩
    · have hc : delimiter = c := by
        have hlast := congrArg List.getLast? hx
        simpa using hlast
      refine absurd ?_ (delimiter_notMem hafter)
      rw [hy, hc]
      simp
  · exact ⟨z, hpage, hy⟩

/-- A text that begins with a delimiter does not begin in what has none. -/
theorem suffix_of_append_eq {x y : List Char} (hbefore : tainted before = false)
    (h : before ++ page = x ++ delimiter :: y) :
    ∃ z, x = before ++ z ∧ page = z ++ delimiter :: y := by
  rcases List.append_eq_append_iff.mp h with hinside | ⟨z, hx, hy⟩
  · exact hinside
  · cases z with
    | nil => exact ⟨[], by simpa using hx.symm, by simpa using hy.symm⟩
    | cons c z =>
      obtain ⟨rfl, -⟩ := List.cons.inj hy
      refine absurd ?_ (delimiter_notMem hbefore)
      rw [hx]
      simp

/-- A text without delimiters at the end does not change what is read. -/
theorem readInside_append_untainted (hafter : tainted after = false) (s : List Char) :
    readInside (s ++ after) = (readInside s).map fun x => (x.1, x.2 ++ after) := by
  cases hread : readInside s with
  | some x =>
    obtain ⟨inside, rest⟩ := x
    obtain ⟨id, number, hid, hids, hnumber, hdigits, rfl⟩ := readInside_ends hread
    rw [readInside_append hread, List.append_assoc]
    exact readInside_append_of hid hids hnumber hdigits (rest ++ after)
  | none =>
    cases hmore : readInside (s ++ after) with
    | none => rfl
    | some x =>
      obtain ⟨inside, rest⟩ := x
      obtain ⟨id, number, hid, hids, hnumber, hdigits, rfl⟩ := readInside_ends hmore
      obtain ⟨z, rfl, -⟩ := prefix_of_append_eq hafter (readInside_append hmore)
      rw [readInside_append_of hid hids hnumber hdigits z] at hread
      cases hread

theorem pieces_append_untainted (hafter : tainted after = false) (page : List Char) :
    pieces (page ++ after) = pieces page ++ after.map .plain := by
  have hplain : pieces after = after.map .plain := by
    have h := pieces_append hafter []
    rwa [List.append_nil, pieces, List.append_nil] at h
  fun_induction pieces page with
  | case1 => exact hplain
  | case2 rest inside more hread ih =>
    have hmore : readInside (rest ++ after) = some (inside, more ++ after) := by
      rw [readInside_append_untainted hafter, hread]
      rfl
    rw [List.cons_append, pieces, if_pos rfl]
    split
    · next heq =>
      rw [hmore] at heq
      obtain ⟨rfl, rfl⟩ := Prod.mk.inj (Option.some.inj heq)
      rw [ih]
      rfl
    · next heq =>
      rw [hmore] at heq
      cases heq
  | case3 rest hread ih =>
    have hmore : readInside (rest ++ after) = none := by
      rw [readInside_append_untainted hafter, hread]
      rfl
    rw [List.cons_append, pieces, if_pos rfl]
    split
    · next heq =>
      rw [hmore] at heq
      cases heq
    · rw [ih]
      rfl
  | case4 c rest hc ih =>
    rw [List.cons_append, pieces, if_neg hc, ih]
    rfl

theorem flatMap_resolve_plain (values : List (String × String)) (t : List Char) :
    (t.map Piece.plain).flatMap (Piece.resolve values) = t := by
  induction t with
  | nil => rfl
  | cons c t ih =>
    rw [List.map_cons, List.flatMap_cons, ih]
    rfl

end Wrapped

/-! ## The values of a wrapped page -/

section Texts

variable {before after : String} (hbefore : tainted before.toList = false)
  (hafter : tainted after.toList = false)

include hbefore hafter

/-- Values go into a wrapped page as into the page. -/
theorem substitute_wrapped (values : List (String × String)) (page : String) :
    substitute values (before ++ page ++ after) = before ++ substitute values page ++ after := by
  have hpieces : pieces (before ++ page ++ after).toList =
      before.toList.map .plain ++ pieces page.toList ++ after.toList.map .plain := by
    rw [String.toList_append, String.toList_append, pieces_append_untainted hafter,
      pieces_append hbefore]
  rw [substitute, hpieces, List.flatMap_append, List.flatMap_append, flatMap_resolve_plain,
    flatMap_resolve_plain, substitute]
  apply String.toList_inj.mp
  simp

/-- The same delimiters are left over. -/
theorem tainted_wrapped (page : String) :
    tainted (before ++ page ++ after).toList = tainted page.toList := by
  rw [String.toList_append, String.toList_append, tainted_append, tainted_append, hbefore, hafter,
    Bool.false_or, Bool.or_false]

/-- A placeholder stands in a wrapped page if it stands in the page. -/
theorem infix_wrapped (id : String) (n : Nat) (page : String) :
    (placeholder id n).toList <:+: (before ++ page ++ after).toList ↔
      (placeholder id n).toList <:+: page.toList := by
  obtain ⟨inner, hinner⟩ : ∃ inner, (placeholder id n).toList = delimiter :: inner ++ [delimiter] :=
    ⟨id.toList ++ ':' :: toDecimal n, by simp [placeholder]⟩
  rw [String.toList_append, String.toList_append, hinner]
  constructor
  · rintro ⟨x, y, hxy⟩
    have hends : before.toList ++ page.toList ++ after.toList =
        (x ++ delimiter :: inner) ++ [delimiter] ++ y := by
      rw [← hxy]
      simp
    obtain ⟨z, hz, -⟩ := prefix_of_append_eq hafter hends
    have hbegins : before.toList ++ page.toList = x ++ delimiter :: (inner ++ [delimiter] ++ z) := by
      rw [hz]
      simp
    obtain ⟨w, -, hw⟩ := suffix_of_append_eq hbefore hbegins
    exact ⟨w, z, by rw [hw]; simp⟩
  · rintro ⟨x, y, hxy⟩
    exact ⟨before.toList ++ x, y ++ after.toList, by simp [← hxy]⟩

end Texts

end DeferredViews.Deferred

namespace DeferredViews.View

open Deferred Template

/-- A text that was issued for a deferred call. -/
def IsToken (t : String) : Prop := ∃ id n, t = placeholder id n

/-- A page with a text before it and one after it. -/
def wrapped (before after page : String) : String := before ++ page ++ after

/-! ## The wait of a wrapped page -/

section Waits

variable {before after : String} (hbefore : tainted before.toList = false)
  (hafter : tainted after.toList = false) {r : Request} {q : Nat}

include hbefore hafter

theorem firstAltered_wrapped {tokens : List String} (h : ∀ t ∈ tokens, IsToken t) (page : String) :
    firstAltered (wrapped before after page) tokens = firstAltered page tokens := by
  rw [firstAltered, firstAltered]
  induction tokens with
  | nil => rfl
  | cons t more ih =>
    obtain ⟨id, n, rfl⟩ := h t List.mem_cons_self
    have hinfix := infix_wrapped hbefore hafter id n page
    rw [← Text.occurs_iff, ← Text.occurs_iff] at hinfix
    rw [List.find?_cons, List.find?_cons, ih fun u hu => h u (List.mem_cons_of_mem _ hu), wrapped,
      Bool.eq_iff_iff.mpr hinfix]

/-- The values of a wrapped page are put into it as into the page, or the same helper is named. -/
theorem complete_wrapped {values : List (String × String)} (htokens : ∀ p ∈ values, IsToken p.1)
    (page : String) {s t : Site} (hregistry : s.activity.registry q = t.activity.registry q) :
    (complete r q (wrapped before after page) values s).1 =
      (complete r q page values t).1.map (wrapped before after) := by
  by_cases hne : values = []
  · subst hne
    rw [complete_nil, complete_nil]
    rfl
  · have hnames : ∀ k ∈ values.map (·.1), IsToken k := by
      intro k hk
      obtain ⟨p, hp, rfl⟩ := List.mem_map.mp hk
      exact htokens p hp
    have hculprit : alteration s q (wrapped before after page) values = alteration t q page values := by
      rw [alteration, alteration, firstAltered_wrapped hbefore hafter hnames, hregistry]
    have hsubstitute : substitute values (wrapped before after page) =
        wrapped before after (substitute values page) := substitute_wrapped hbefore hafter values page
    have htainted := tainted_wrapped hbefore hafter (substitute values page)
    rw [complete_eq r q _ hne, complete_eq r q _ hne, hculprit, hsubstitute, wrapped, htainted]
    split <;> rfl

theorem endWith_wrapped {result : Except Stop (List (String × String))}
    (htokens : ∀ values, result = .ok values → ∀ p ∈ values, IsToken p.1) (page : String)
    {s t : Site} (hregistry : s.activity.registry q = t.activity.registry q) :
    endWith r q (wrapped before after page) s result =
      (endWith r q page t result).map (wrapped before after) := by
  cases result with
  | error e => rfl
  | ok values => exact complete_wrapped hbefore hafter (htokens values rfl) page hregistry

/-- Two renders that are equally far, one with the page of the other between two texts: both have
ended, or both wait for the same calls. -/
inductive Enclosed (before after : String) (q : Nat) : Stage × Site → Stage × Site → Prop
  | ended (x : Except Stop String) (s t : Site) :
      Enclosed before after q (.ended (x.map (wrapped before after)), s) (.ended x, t)
  | settling (page : String) (rounds : Nat) (w : Settling) {s t : Site} (htwin : s.Twin t)
      (htokens : ∀ c ∈ w.tasks.map (·.call), IsToken c.token) :
      Enclosed before after q (.settling q (wrapped before after page) rounds w, s)
        (.settling q page rounds w, t)

theorem Enclosed.step {x y : Stage × Site} (h : Enclosed before after q x y) :
    Enclosed before after q (x.1.step r x.2) (y.1.step r y.2) := by
  cases h with
  | ended x s t => exact .ended x s t
  | @settling page rounds w s t htwin htokens =>
    have htimeout : (s.engine r.engine).timeout = (t.engine r.engine).timeout :=
      (htwin.engines r.engine).1.timeout
    cases hdeadline : deadlineOf (t.engine r.engine).timeout with
    | error f =>
      rw [step_settling_error r page q rounds w hdeadline,
        step_settling_error r _ q rounds w (htimeout ▸ hdeadline)]
      exact .ended (.error (.fault f)) s t
    | ok deadline =>
      have hcalls := w.calls_advance (some q) deadline rounds t.activity
      have hactivity := htwin.activity
      cases hresult : (w.advance (some q) deadline rounds t.activity).1.result? with
      | none =>
        rw [step_settling_none r page q rounds w hdeadline hresult,
          step_settling_none r _ q rounds w (htimeout ▸ hdeadline) (hactivity ▸ hresult), hactivity]
        exact .settling page (rounds + 1) _ { htwin with activity := rfl } (hcalls.symm ▸ htokens)
      | some settled =>
        obtain ⟨log, hstep⟩ := step_settling_some r page q rounds w hdeadline hresult
        obtain ⟨log', hstep'⟩ := step_settling_some r (wrapped before after page) q rounds w
          (htimeout ▸ hdeadline) (hactivity ▸ hresult)
        have htokens' : ∀ values, settled.result deadline = .ok values →
            ∀ p ∈ values, IsToken p.1 := by
          intro values hvalues p hp
          have hmem : p.1 ∈ values.map (·.1) := List.mem_map_of_mem hp
          rw [tokens_of_values hresult hvalues] at hmem
          obtain ⟨task, htask, htoken⟩ := List.mem_map.mp hmem
          exact htoken ▸ htokens _ (hcalls ▸ List.mem_map_of_mem htask)
        have hend := endWith_wrapped hbefore hafter (r := r) (q := q) htokens' page
          (s := { s with activity := (w.advance (some q) deadline rounds s.activity).2 })
          (t := { t with activity := (w.advance (some q) deadline rounds t.activity).2 })
          (by rw [hactivity])
        rw [hstep, hstep', hend]
        exact .ended _ _ _

theorem Enclosed.runStages {x y : Stage × Site} (h : Enclosed before after q x y) (n : Nat) :
    Enclosed before after q (View.runStages r n x.1 x.2) (View.runStages r n y.1 y.2) := by
  induction n generalizing x y with
  | zero => exact h
  | succ n ih =>
    cases h with
    | ended x s t =>
      rw [runStages_ended, runStages_ended]
      exact .ended x s t
    | settling page rounds w htwin htokens =>
      rw [runStages_succ r n _ rfl, runStages_succ r n _ rfl]
      exact ih ((Enclosed.settling page rounds w htwin htokens).step hbefore hafter)

omit hbefore hafter in
theorem Enclosed.resultOrCancelled {x y : Stage × Site} (h : Enclosed before after q x y) :
    x.1.resultOrCancelled = y.1.resultOrCancelled.map (wrapped before after) := by
  cases h <;> rfl

end Waits

/-! ## The run of a wrapped page -/

/-- A layout that prints a text, the `body` that a render gives it, and another text, and calls
nothing. -/
def Site.Wraps (s : Site) (r : Request) (layout : Compiled) (before after : String) : Prop :=
  ∀ q content t, s.Akin t →
    (layout.run (some q) ((s.optionsAt r.options).set "body" (.markup content)) t).1 =
        .ok (wrapped before after content) ∧
      (layout.run (some q) ((s.optionsAt r.options).set "body" (.markup content)) t).2.activity =
        t.activity

/-- A page that prints the same, and does the same, whatever the option `layout` is. -/
def Site.IgnoresLayout (s : Site) (r : Request) (page : Compiled) : Prop :=
  ∀ q v t, s.Akin t →
    page.run (some q) ((s.optionsAt r.options).set "layout" v) t =
      page.run (some q) (s.optionsAt r.options) t

/-- A layout whose template is a text, the `body`, and another text. -/
theorem wraps_of_template {s : Site} {r : Request} {layout : Compiled} {before after : String}
    (hnodup : ((s.optionsAt r.options).map (·.1)).Nodup)
    (hbody : layout.template.body = [.text before, .print (.name "body"), .text after]) :
    s.Wraps r layout before after := by
  intro q content t _
  have hrun : ∀ h : Host Site,
      layout.template.run h ((s.optionsAt r.options).set "body" (.markup content)) =
        pure (wrapped before after content) := by
    intro h
    generalize hlocals : h.globals.update ((s.optionsAt r.options).set "body" (.markup content)) = l
    have hvalue : (Scope.ofLocals l layout.template.body).value "body" = .markup content := by
      have hget : l.get? "body" = some (.markup content) := by
        rw [← hlocals, Locals.get?_update_nodup _ (Locals.nodup_set hnodup _ _),
          Locals.get?_set_self, Option.some_or]
      rw [hbody]
      show (l.get? "body").getD _ = _
      rw [hget, Option.getD_some]
    rw [hbody] at hvalue
    rw [Template.run, includeDepth, Template.runWithin, hlocals, hbody]
    simp only [runAll, Stmt.run, Expr.eval, hvalue, pure_bind, Value.printed_markup,
      String.append_empty]
    rw [wrapped, String.append_assoc]
  rw [Compiled.run, hrun]
  exact ⟨rfl, rfl⟩

/-- A page in which neither the template nor one that it may include reads `layout`. -/
theorem ignoresLayout_of_unread {s : Site} {r : Request} {page : Compiled}
    (hreads : anyReads "layout" page.template.body = false)
    (hincluded : ∀ t, (s.engine page.engine).Includes t → anyReads "layout" t.body = false) :
    s.IgnoresLayout r page := by
  intro q v t ht
  refine run_set_unread page (some q) hreads ?_ _ v
  rintro included ⟨name, hload⟩
  exact hincluded included ⟨name, ((ht page.engine).1.load name).symm.trans hload⟩

/-- While a page is run, the calls that it puts off get placeholders. -/
theorem tokens_pageText (r : Request) (q : Nat) (layout : Option Wrapping) (page : Compiled)
    {s : Site} (h : ∀ c ∈ (s.activity.registry q).pending, IsToken c.token) :
    ∀ c ∈ ((pageText r q layout page s).2.activity.registry q).pending, IsToken c.token := by
  refine activity_pageText_keeps (P := fun a => ∀ c ∈ (a.registry q).pending, IsToken c.token)
    ?_ (fun _ _ _ ha => ha) r layout page h
  intro a name i args kwargs ha
  show ∀ c ∈ ((a.register q name i args kwargs).2.registry q).pending, IsToken c.token
  rw [Activity.register]
  dsimp only
  rcases a.registry_setRegistry q ((a.registry q).register _ i args kwargs).2 with heq | heq
  · rw [heq, Registry.register_pending]
    intro c hc
    rcases List.mem_append.mp hc with hc | hc
    · exact ha c hc
    · rw [List.mem_singleton.mp hc]
      exact ⟨_, _, rfl⟩
  · rw [heq]
    exact ha

section Pages

variable {r : Request} {before after : String} {q : Nat}

/-- A page that is complete but for its calls leads as far as the wrapped page. -/
theorem Enclosed.closePage (page : String) {s t : Site} (h : s.Twin t)
    (htokens : ∀ c ∈ (t.activity.registry q).pending, IsToken c.token) :
    Enclosed before after q
      (Stage.after (View.closePage r q (wrapped before after page) s))
      (Stage.after (View.closePage r q page t)) := by
  have hactivity := h.activity
  by_cases hpending : (t.activity.registry q).pending = []
  · obtain ⟨log, hclose⟩ := closePage_nil r page hpending
    obtain ⟨log', hclose'⟩ := closePage_nil r (wrapped before after page) (s := s)
      (hactivity ▸ hpending)
    rw [hclose, hclose']
    exact .ended (.ok page) _ _
  · have htimeout : (s.engine r.engine).timeout = (t.engine r.engine).timeout :=
      (h.engines r.engine).1.timeout
    rw [closePage_cons r page hpending, closePage_cons r _ (s := s) (hactivity ▸ hpending),
      htimeout, hactivity]
    cases deadlineOf (t.engine r.engine).timeout with
    | error f => exact .ended (.error (.fault f)) _ _
    | ok deadline =>
      refine .settling page 0 _ { h with activity := rfl } ?_
      rw [Settling.ofPending, List.map_map]
      intro c hc
      exact htokens c (by simpa using hc)

variable {s : Site} {l : Wrapping} {page : Compiled} {v : Value}

/-- The page runs alike, whether there is to be a layout or not. -/
theorem execute_without_layout (hroom : r.options < s.options.length)
    (hpage : s.IgnoresLayout r page) :
    (execute r q page r.path s.opened).1 =
        (execute r q page r.path (s.setOption r.options "layout" v).opened).1 ∧
      (execute r q page r.path s.opened).2.Twin
        (execute r q page r.path (s.setOption r.options "layout" v).opened).2 := by
  have hakin : s.Akin (s.setOption r.options "layout" v).opened := fun d => ⟨.refl _, rfl⟩
  have htwin : s.opened.Twin (s.setOption r.options "layout" v).opened :=
    ⟨fun d => ⟨.refl _, rfl⟩, rfl⟩
  have hlocals : (s.setOption r.options "layout" v).opened.optionsAt r.options =
      (s.optionsAt r.options).set "layout" v := s.optionsAt_setOption_self _ _ _ hroom
  refine execute_of_run (J := Site.Twin) r.path ?_
  rw [hlocals, hpage q v _ hakin]
  exact htwin.run q page _

/-- A layout that wraps its `body` leaves a site on which the page could have been run alone. -/
theorem execute_wraps (hroom : r.options < s.options.length)
    (hwraps : s.Wraps r l.compiled before after) (content : String) {u w : Site} (hakin : s.Akin u)
    (hoptions : u.options = s.options) (htwin : u.Twin w) :
    ∃ t, execute r q l.compiled l.name (u.setOption r.options "body" (.markup content)) =
      (.ok (wrapped before after content), t) ∧ t.Twin w := by
  have hlocals : (u.setOption r.options "body" (.markup content)).optionsAt r.options =
      (s.optionsAt r.options).set "body" (.markup content) := by
    rw [u.optionsAt_setOption_self _ _ _ (hoptions.symm ▸ hroom), Site.optionsAt, hoptions]
    rfl
  obtain ⟨hresult, hactivity⟩ :=
    hwraps q content (u.setOption r.options "body" (.markup content)) hakin
  have hkept := akin_run q l.compiled ((s.optionsAt r.options).set "body" (.markup content))
    (u.setOption r.options "body" (.markup content))
  rw [execute_apply, hlocals]
  generalize l.compiled.run (some q) _ _ = x at hresult hactivity hkept ⊢
  obtain ⟨result, t⟩ := x
  obtain rfl : result = .ok (wrapped before after content) := hresult
  refine ⟨t, rfl, fun d => ?_, hactivity.trans htwin.activity⟩
  have htwin' := htwin.engines d
  exact ⟨(hkept d).1.trans htwin'.1, (hkept d).2.trans htwin'.2⟩

/-- A page in a layout that wraps it leads as far as the page alone. -/
theorem Enclosed.runPage (hroom : r.options < s.options.length)
    (hwraps : s.Wraps r l.compiled before after) (hpage : s.IgnoresLayout r page) :
    Enclosed before after s.activity.registries.length
      (Stage.after (View.runPage r s.activity.registries.length (some l) page s.opened))
      (Stage.after (View.runPage r s.activity.registries.length none page
        (s.setOption r.options "layout" v).opened)) := by
  generalize hq : s.activity.registries.length = q
  have hfresh : ∀ c ∈ ((s.setOption r.options "layout" v).opened.activity.registry q).pending,
      IsToken c.token := by
    have hopened := (s.setOption r.options "layout" v).registry_opened
    have hregistries : (s.setOption r.options "layout" v).activity.registries.length = q := hq
    rw [hregistries] at hopened
    rw [hopened]
    exact fun c hc => absurd hc List.not_mem_nil
  have htokens := tokens_pageText r q none page hfresh
  obtain ⟨hresult, htwin⟩ := execute_without_layout (q := q) (v := v) hroom hpage
  have hoptions : (execute r q page r.path s.opened).2.options = s.options :=
    execute_options r q page r.path s.opened
  have hakin : s.Akin (execute r q page r.path s.opened).2 :=
    akin_execute r q page r.path s.opened
  rw [runPage_eq, runPage_eq, after_bind_apply, after_bind_apply]
  rw [pageText, bind_apply] at htokens ⊢
  rw [pageText, bind_apply]
  generalize execute r q page r.path s.opened = x at hresult htwin hoptions hakin ⊢
  generalize execute r q page r.path (s.setOption r.options "layout" v).opened = y at *
  obtain ⟨result, u⟩ := x
  obtain ⟨_, w⟩ := y
  obtain rfl : result = _ := hresult
  cases result with
  | error e => exact .ended (.error e) u w
  | ok content =>
    obtain ⟨t, hlayout, htwin'⟩ := execute_wraps (q := q) hroom hwraps content hakin hoptions htwin
    have hbody : (modify (·.setOption r.options "body" (.markup content)) : Work PUnit) u =
        (.ok ⟨⟩, u.setOption r.options "body" (.markup content)) := rfl
    dsimp only
    rw [bind_apply, hbody]
    dsimp only
    rw [hlayout]
    exact Enclosed.closePage content htwin' htokens

end Pages

/-- Wrapping commutes with rendering. With a layout that only wraps its `body`, a render ends well
exactly if it does so without a layout, then with the texts around its page, and otherwise fails with
the same error. -/
theorem render_wrapped {r : Request} {s : Site} (hroom : r.options < s.options.length) {l : Wrapping}
    (hlayout : s.layoutFor r = .ok (some l)) {before after : String}
    (hwraps : s.Wraps r l.compiled before after) (hbefore : tainted before.toList = false)
    (hafter : tainted after.toList = false)
    (hpage : ∀ page, s.pageFor r = .ok page → s.IgnoresLayout r page) {v : Value}
    (hv : v.truthy = false) :
    (render r s).1 =
      (render r (s.setOption r.options "layout" v)).1.map fun html => before ++ html ++ after := by
  have hoption : ((s.setOption r.options "layout" v).optionsAt r.options).get? "layout" = some v := by
    rw [s.optionsAt_setOption_self _ _ _ hroom]
    exact Locals.get?_set_self _ _ _
  have hwithout : (s.setOption r.options "layout" v).layoutFor r = .ok none := by
    rw [Site.layoutFor, LayoutDecision.ofOptions, hoption]
    dsimp only
    rw [LayoutDecision.ofValue, if_neg (Bool.eq_false_iff.mp hv)]
    rfl
  have hpageFor : (s.setOption r.options "layout" v).pageFor r = s.pageFor r :=
    Site.pageFor_congr rfl rfl rfl
  rw [render_eq, render_eq, hlayout, hwithout, hpageFor]
  cases hfound : s.pageFor r with
  | error e => rfl
  | ok page =>
    have hrun := Enclosed.runPage (v := v) hroom hwraps (hpage page hfound)
    exact (hrun.runStages hbefore hafter (patience s)).resultOrCancelled

theorem ignoresLayout_greetingSite {page : Compiled}
    (h : greetingSite.pageFor (greetings false) = .ok page) :
    greetingSite.IgnoresLayout (greetings false) page := by
  obtain rfl : (⟨0, greeting "A"⟩ : Compiled) = page := Except.ok.inj h
  refine ignoresLayout_of_unread (by decide +kernel) ?_
  -- The engine has nothing to include.
  rintro t ⟨name, hload⟩
  cases hload

/-- A greeting in brackets, and without them. -/
theorem render_bracketed_greeting :
    greetingSite.layoutFor (greetings false) = .ok (some ⟨"layout", ⟨0, brackets⟩⟩) ∧
      (render (greetings false) greetingSite).1 =
        (render (greetings false) (greetingSite.setOption 0 "layout" (.bool false))).1.map
          (fun html => "[" ++ html ++ "]") ∧
      (render (greetings false) (greetingSite.setOption 0 "layout" (.bool false))).1 = .ok "A<b>" ∧
      (render (greetings false) greetingSite).1 = .ok "[A<b>]" := by
  have hwrapped : (render (greetings false) greetingSite).1 =
      (render (greetings false) (greetingSite.setOption 0 "layout" (.bool false))).1.map
        fun html => "[" ++ html ++ "]" :=
    render_wrapped (by decide) rfl (wraps_of_template (by decide) rfl) (by decide) (by decide)
      (fun _ => ignoresLayout_greetingSite) rfl
  have hbare : (render (greetings false) (greetingSite.setOption 0 "layout" (.bool false))).1 =
      .ok "A<b>" :=
    eq_ok_of_toOption (by decide +kernel)
  refine ⟨rfl, hwrapped, hbare, ?_⟩
  rw [hwrapped, hbare]
  rfl

end DeferredViews.View
