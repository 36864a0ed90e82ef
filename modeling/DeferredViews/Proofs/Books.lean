import DeferredViews.Proofs.Rows
import DeferredViews.Proofs.Schedules
import Mathlib.Data.List.Nodup

/-!
# The books of registries

A registry numbers its calls from the first on, and remembers the name of each for ever, but keeps a
call only until some wait takes it. So the calls that were taken and those that are pending, in this
order, are the calls of which it knows the names, and their placeholders are those of its numbers.
-/
namespace DeferredViews.Deferred

namespace Registry

/-- A registry some of whose calls were taken. `helpers` is the number of helpers there are. -/
structure Kept (r : Registry) (taken : List Pending) (helpers : Nat) : Prop where
  names : r.names = (taken ++ r.pending).map fun c => (c.token, c.name)
  numbered : Numbered r.id (taken ++ r.pending)
  issued : r.issued = (taken ++ r.pending).length
  known : ∀ c ∈ taken ++ r.pending, c.helper < helpers

variable {r : Registry} {taken : List Pending} {helpers : Nat}

theorem kept_new (id : String) (helpers : Nat) : Kept { id } [] helpers :=
  ⟨rfl, fun _ _ => nofun, rfl, fun _ => nofun⟩

theorem Kept.mono (h : r.Kept taken helpers) {more : Nat} (hmore : helpers ≤ more) :
    r.Kept taken more :=
  { h with known := fun c hc => Nat.lt_of_lt_of_le (h.known c hc) hmore }

theorem Kept.register (h : r.Kept taken helpers) (name : String) {helper : Nat}
    (hhelper : helper < helpers) (args : List Value) (kwargs : Locals) :
    (r.register name helper args kwargs).2.Kept taken helpers where
  names := by
    rw [register_pending, ← List.append_assoc, List.map_append, ← h.names]
    rfl
  numbered := by
    rw [register_pending, ← List.append_assoc]
    exact h.numbered.push (congrArg (placeholder r.id) h.issued)
  issued := by
    rw [register_pending, ← List.append_assoc, List.length_append, ← h.issued]
    rfl
  known := by
    rw [register_pending, ← List.append_assoc]
    intro c hc
    rcases List.mem_append.mp hc with hc | hc
    · exact h.known c hc
    · rw [List.mem_singleton.mp hc]
      exact hhelper

theorem Kept.take (h : r.Kept taken helpers) : r.take.2.Kept (taken ++ r.pending) helpers := by
  refine ⟨?_, ?_, ?_, ?_⟩ <;> rw [take_pending, List.append_nil]
  · exact h.names
  · exact h.numbered
  · exact h.issued
  · exact h.known

/-- The placeholders that were issued are those of the numbers so far. -/
theorem Kept.tokens_names (h : r.Kept taken helpers) :
    r.names.map (·.1) = (List.range r.issued).map (placeholder r.id) := by
  rw [h.names, h.issued]
  refine List.ext_getElem? fun n => ?_
  simp only [List.map_map, List.getElem?_map]
  cases hn : (taken ++ r.pending)[n]? with
  | none =>
    have hlong := List.getElem?_eq_none_iff.mp hn
    rw [List.getElem?_eq_none (by rw [List.length_range]; exact hlong)]
    rfl
  | some c =>
    rw [List.getElem?_range (List.getElem?_eq_some_iff.mp hn).1]
    exact congrArg some (h.numbered n c hn)

theorem Kept.nodup (h : r.Kept taken helpers) (hid : IsRegistryId r.id) :
    (r.names.map (·.1)).Nodup := by
  rw [h.tokens_names]
  exact List.Nodup.map (fun n m heq => (placeholder_injective hid hid heq).2) List.nodup_range

theorem Kept.helperName (h : r.Kept taken helpers) (hid : IsRegistryId r.id) {token name : String}
    (hmem : (token, name) ∈ r.names) : r.helperName token = name := by
  rw [h.names] at hmem
  obtain ⟨c, hc, heq⟩ := List.mem_map.mp hmem
  cases heq
  obtain ⟨n, hn⟩ := List.mem_iff_getElem?.mp hc
  rw [Registry.helperName, h.names, h.numbered n c hn, lookup_numbered hid h.numbered (·.name), hn]
  rfl

theorem names_prefix_of_eq {p q : Registry} (h : q = p) : p.names <+: q.names :=
  h ▸ List.prefix_refl p.names

end Registry

/-- The calls of a registry among those that waits have taken, each wait with its registry. -/
def takenOf (records : List (Nat × List Pending)) (r : Nat) : List Pending :=
  records.flatMap fun x => if x.1 = r then x.2 else []

theorem takenOf_append (records : List (Nat × List Pending)) (q : Nat) (calls : List Pending)
    (r : Nat) :
    takenOf (records ++ [(q, calls)]) r = takenOf records r ++ if q = r then calls else [] := by
  rw [takenOf, List.flatMap_append, List.flatMap_singleton]
  rfl

namespace Activity

/-- All placeholders that were ever issued, one registry after the other. -/
def issuedTokens (a : Activity) : List String := a.registries.flatMap fun r => r.names.map (·.1)

/-- A registry that was not opened has issued nothing. -/
theorem registry_of_le {a : Activity} {r : Nat} (h : a.registries.length ≤ r) :
    a.registry r = { id := "" } := by
  rw [registry, List.getElem?_eq_none h]
  rfl

theorem registry_openRegistry (a : Activity) (r : Nat) :
    a.openRegistry.2.registry r =
      if r = a.registries.length then { id := a.ids a.registries.length } else a.registry r := by
  have hlength : a.openRegistry.2.registries.length = a.registries.length + 1 :=
    List.length_append
  rcases Nat.lt_trichotomy r a.registries.length with hlt | rfl | hgt
  · rw [if_neg (Nat.ne_of_lt hlt)]
    simp [registry, openRegistry, List.getElem?_append_left hlt]
  · rw [if_pos rfl]
    simp [registry, openRegistry]
  · rw [if_neg (Nat.ne_of_gt hgt), registry_of_le (hlength ▸ hgt), registry_of_le (Nat.le_of_lt hgt)]

/-- To put off a call forgets no name. -/
theorem names_register (a : Activity) (q : Nat) (name : String) (helper : Nat) (args : List Value)
    (kwargs : Locals) (r : Nat) :
    (a.registry r).names <+: ((a.register q name helper args kwargs).2.registry r).names := by
  rw [register]
  by_cases hqr : q = r
  · subst hqr
    rcases a.registry_setRegistry q ((a.registry q).register
      (if name.isEmpty then ((a.helpers[helper]?).elim "" (·.name)) else name) helper args
        kwargs).2 with hnew | hold
    · rw [hnew]
      exact List.prefix_append _ _
    · exact Registry.names_prefix_of_eq hold
  · exact Registry.names_prefix_of_eq (a.registry_setRegistry_of_ne _ hqr)

theorem names_takePending (a : Activity) (q r : Nat) :
    ((a.takePending q).2.registry r).names = (a.registry r).names := by
  rw [takePending]
  by_cases hqr : q = r
  · subst hqr
    rcases a.registry_setRegistry q (a.registry q).take.2 with hnew | hold
    · rw [hnew]
      rfl
    · rw [hold]
  · rw [a.registry_setRegistry_of_ne _ hqr]

/-- Helpers put off only calls of helpers. -/
def Closed (a : Activity) : Prop :=
  ∀ h ∈ a.helpers, ∀ call i args kwargs wrap, h.body call = .defer i args kwargs wrap →
    i < a.helpers.length

/-- What a step of a task may leave behind: helpers that were started, and one more call. -/
structure Adds (a b : Activity) (starts : List Nat) : Prop where
  ids : b.ids = a.ids
  helpers : b.helpers = a.helpers
  starts : b.starts = a.starts ++ starts
  registries : b.registries = a.registries ∨ ∃ q i args kwargs, i < a.helpers.length ∧
    b.registries = (a.register q "" i args kwargs).2.registries

theorem Adds.refl (a : Activity) : a.Adds a [] := ⟨rfl, rfl, (List.append_nil _).symm, .inl rfl⟩

theorem Adds.names {a b : Activity} {starts : List Nat} (h : a.Adds b starts) (r : Nat) :
    (a.registry r).names <+: (b.registry r).names := by
  rcases h.registries with hsame | ⟨q, i, args, kwargs, -, hregistries⟩
  · exact Registry.names_prefix_of_eq (registry_congr hsame r)
  · rw [registry_congr hregistries]
    exact a.names_register q "" i args kwargs r

end Activity

variable {a b : Activity} (scope : Option Nat)

theorem answer_adds {reply : Reply}
    (hreply : ∀ i args kwargs wrap, reply = .defer i args kwargs wrap → i < a.helpers.length) :
    a.Adds (answer scope reply a).2 [] := by
  cases reply with
  | defer i args kwargs wrap =>
    cases scope with
    | none => exact .refl a
    | some q =>
      exact ⟨rfl, rfl, (List.append_nil _).symm,
        .inr ⟨q, i, args, kwargs, hreply i args kwargs wrap rfl, rfl⟩⟩
  | _ => exact .refl a

namespace Task

/-- A task that has not run yet. -/
def isReady (t : Task) : Bool :=
  match t.state with
  | .ready => true
  | _ => false

theorem conclude_adds {h : Helper} {call : Call}
    (hbody : ∀ i args kwargs wrap, h.body call = .defer i args kwargs wrap → i < a.helpers.length) :
    a.Adds (conclude scope h call a).2 [] := by
  have hanswer := answer_adds scope hbody
  rw [conclude]
  split <;> next heq => rwa [heq] at hanswer

/-- A step of a task whose helper is known starts it if it has not run yet, and may put off one
call. -/
theorem step_adds {t : Task} (hclosed : a.Closed) (hknown : t.call.helper < a.helpers.length) :
    a.Adds (t.step scope a).2 (if t.isReady then [t.call.helper] else []) := by
  obtain ⟨h, hhelper⟩ : ∃ h, a.helpers[t.call.helper]? = some h := ⟨_, List.getElem?_eq_getElem hknown⟩
  have hbody := hclosed h (List.mem_of_getElem? hhelper)
  rw [step, hhelper, isReady]
  dsimp only
  rw [advance]
  cases t.state with
  | ready =>
    dsimp only
    split
    · exact ⟨rfl, rfl, rfl, .inl rfl⟩
    · have hadds := conclude_adds scope (a := (a.start t.call.helper h).2)
        (hbody ⟨t.call.args, t.call.kwargs, (a.start t.call.helper h).1⟩)
      refine ⟨hadds.ids, hadds.helpers, ?_, hadds.registries⟩
      rw [hadds.starts, List.append_nil]
      rfl
  | pausing left call =>
    cases left with
    | zero =>
      have hadds := conclude_adds scope (a := a.record (.resumed h.name)) (hbody call)
      exact ⟨hadds.ids, hadds.helpers, hadds.starts, hadds.registries⟩
    | succ left => exact .refl a
  | hanging => exact .refl a
  | cancelling hung =>
    dsimp only
    split
    · exact ⟨rfl, rfl, (List.append_nil _).symm, .inl rfl⟩
    · exact .refl a
  | finished o => exact .refl a

theorem isReady_step (t : Task) (a : Activity) :
    (t.step scope a).1.isReady = false := by
  have hconclude : ∀ (h : Helper) (call : Call) (a : Activity),
      isReady { t with state := (conclude scope h call a).1 } = false := by
    intro h call a
    rw [conclude]
    split <;> rfl
  rw [step]
  split
  · rfl
  · next h _ =>
    dsimp only
    rw [advance]
    cases t.state with
    | ready =>
      dsimp only
      split
      · rfl
      · exact hconclude h _ _
    | pausing left call =>
      cases left with
      | zero => exact hconclude h call _
      | succ left => rfl
    | _ => rfl

theorem isReady_of_finished {t : Task} (h : t.isFinished = true) : t.isReady = false := by
  obtain ⟨o, ho⟩ := Option.isSome_iff_exists.mp h
  rw [isReady, state_of_outcome? ho]

theorem isReady_cancel (t : Task) : t.cancel.isReady = false := by
  rw [cancel]
  split
  · next o heq =>
    rw [isReady, heq]
  all_goals rfl

end Task

/-- The books of all registries, given what waits have taken. -/
structure Books (a : Activity) (records : List (Nat × List Pending)) : Prop where
  ids : ∀ r < a.registries.length, (a.registry r).id = a.ids r
  kept : ∀ r, (a.registry r).Kept (takenOf records r) a.helpers.length
  apart : (records.flatMap fun x => x.2.map (·.token)).Nodup

namespace Books

variable {records : List (Nat × List Pending)}

theorem of_fresh (h : a.registries = []) : Books a [] := by
  have hlength : a.registries.length = 0 := by rw [h, List.length_nil]
  refine ⟨?_, ?_, List.nodup_nil⟩
  · intro r hr
    rw [hlength] at hr
    cases hr
  · intro r
    rw [Activity.registry_of_le (hlength ▸ Nat.zero_le r)]
    exact Registry.kept_new "" a.helpers.length

/-- What was no registry yet had no calls for waits to take. -/
theorem takenOf_of_le (h : Books a records) {r : Nat} (hr : a.registries.length ≤ r) :
    takenOf records r = [] := by
  have hnames := (h.kept r).names
  rw [Activity.registry_of_le hr, List.append_nil] at hnames
  exact List.map_eq_nil_iff.mp hnames.symm

theorem congr (h : Books a records) (hids : b.ids = a.ids) (hregistries : b.registries = a.registries)
    (hhelpers : a.helpers.length ≤ b.helpers.length) : Books b records := by
  refine ⟨?_, ?_, h.apart⟩
  · intro r hr
    rw [Activity.registry_congr hregistries, hids]
    exact h.ids r (hregistries ▸ hr)
  · intro r
    rw [Activity.registry_congr hregistries]
    exact (h.kept r).mono hhelpers

theorem openRegistry (h : Books a records) : Books a.openRegistry.2 records := by
  have hlength : a.openRegistry.2.registries.length = a.registries.length + 1 :=
    List.length_append
  refine ⟨?_, ?_, h.apart⟩ <;> intro r
  · intro hr
    rw [hlength] at hr
    rw [a.registry_openRegistry]
    split
    · next heq =>
      rw [heq]
      rfl
    · next hne =>
      exact h.ids r (Nat.lt_of_le_of_ne (Nat.lt_succ_iff.mp hr) hne)
  · rw [a.registry_openRegistry]
    split
    · next heq =>
      rw [h.takenOf_of_le (Nat.le_of_eq heq.symm)]
      exact Registry.kept_new _ _
    · exact h.kept r

theorem setRegistry (h : Books a records) (r : Nat) (value : Registry)
    (hid : value.id = (a.registry r).id) {records' : List (Nat × List Pending)}
    (hother : ∀ q, r ≠ q → takenOf records' q = takenOf records q)
    (hroom : a.registries.length ≤ r → takenOf records' r = takenOf records r)
    (hvalue : value.Kept (takenOf records' r) a.helpers.length)
    (hapart : (records'.flatMap fun x => x.2.map (·.token)).Nodup) :
    Books (a.setRegistry r value) records' := by
  have hlength : (a.setRegistry r value).registries.length = a.registries.length :=
    List.length_set
  refine ⟨?_, ?_, hapart⟩
  · intro q hq
    rw [hlength] at hq
    by_cases hqr : r = q
    · subst hqr
      rw [a.registry_setRegistry_self r value hq, hid]
      exact h.ids r hq
    · rw [a.registry_setRegistry_of_ne value hqr]
      exact h.ids q hq
  · intro q
    by_cases hqr : r = q
    · subst hqr
      by_cases hr : r < a.registries.length
      · rw [a.registry_setRegistry_self r value hr]
        exact hvalue
      · have hsame : a.setRegistry r value = a := by
          rw [Activity.setRegistry, List.set_eq_of_length_le (Nat.le_of_not_lt hr)]
        rw [hsame, hroom (Nat.le_of_not_lt hr)]
        exact h.kept r
    · rw [a.registry_setRegistry_of_ne value hqr, hother q hqr]
      exact h.kept q

theorem register (h : Books a records) (r : Nat) (name : String) {helper : Nat}
    (hhelper : helper < a.helpers.length) (args : List Value) (kwargs : Locals) :
    Books (a.register r name helper args kwargs).2 records := by
  refine h.setRegistry r _ ?_ (fun _ _ => rfl) (fun _ => rfl)
    ((h.kept r).register _ hhelper args kwargs) h.apart
  rfl

theorem adds (h : Books a records) {starts : List Nat} (hadds : a.Adds b starts) :
    Books b records := by
  have hlength : a.helpers.length ≤ b.helpers.length := Nat.le_of_eq (congrArg _ hadds.helpers.symm)
  rcases hadds.registries with hsame | ⟨q, i, args, kwargs, hi, hregistries⟩
  · exact h.congr hadds.ids hsame hlength
  · exact (h.register q "" hi args kwargs).congr hadds.ids hregistries hlength

/-- The placeholders that one wait has taken are all different. -/
theorem nodup_of_mem (h : Books a records) {x : Nat × List Pending} (hx : x ∈ records) :
    (x.2.map (·.token)).Nodup :=
  (List.nodup_flatMap.mp h.apart).1 x hx

/-- No two waits have taken the same placeholder. -/
theorem token_ne_of_ne (h : Books a records) {i j : Nat} (hij : i ≠ j) {x y : Nat × List Pending}
    (hx : records[i]? = some x) (hy : records[j]? = some y) {c d : Pending} (hc : c ∈ x.2)
    (hd : d ∈ y.2) : c.token ≠ d.token := by
  obtain ⟨hi, rfl⟩ := List.getElem?_eq_some_iff.mp hx
  obtain ⟨hj, rfl⟩ := List.getElem?_eq_some_iff.mp hy
  have hpairs := List.pairwise_iff_getElem.mp (List.nodup_flatMap.mp h.apart).2
  intro heq
  rcases Nat.lt_or_gt_of_ne hij with hlt | hgt
  · exact hpairs i j hi hj hlt (List.mem_map_of_mem hc) (heq ▸ List.mem_map_of_mem hd)
  · exact hpairs j i hj hi hgt (List.mem_map_of_mem hd) (heq ▸ List.mem_map_of_mem hc)

section Tokens

variable (hid : ∀ r, IsRegistryId (a.ids r)) (hinj : Function.Injective a.ids)

/-- A call that a registry knows has a placeholder of this registry. -/
theorem token_eq (h : Books a records) {r n : Nat} {c : Pending}
    (hc : (takenOf records r ++ (a.registry r).pending)[n]? = some c) :
    c.token = placeholder (a.ids r) n := by
  have hroom : r < a.registries.length := by
    by_contra hr
    rw [h.takenOf_of_le (Nat.le_of_not_lt hr), Activity.registry_of_le (Nat.le_of_not_lt hr)] at hc
    cases hc
  rw [(h.kept r).numbered n c hc, h.ids r hroom]

include hid

theorem nodup_pending (h : Books a records) (r : Nat) :
    ((a.registry r).pending.map (·.token)).Nodup := by
  by_cases hr : r < a.registries.length
  · have hnodup := (h.kept r).nodup ((h.ids r hr).symm ▸ hid r)
    rw [(h.kept r).names, List.map_map, List.map_append] at hnodup
    exact hnodup.of_append_right
  · rw [Activity.registry_of_le (Nat.le_of_not_lt hr)]
    exact List.nodup_nil

/-- A registry tells the name under which it issued a placeholder. -/
theorem helperName (h : Books a records) {r : Nat} {token name : String}
    (hmem : (token, name) ∈ (a.registry r).names) : (a.registry r).helperName token = name := by
  by_cases hr : r < a.registries.length
  · exact (h.kept r).helperName ((h.ids r hr).symm ▸ hid r) hmem
  · rw [Activity.registry_of_le (Nat.le_of_not_lt hr)] at hmem
    cases hmem

/-- Each placeholder is matched in full where placeholders are looked for. -/
theorem pieces_issuedTokens (h : Books a records) {token : String} (htoken : token ∈ a.issuedTokens) :
    ∃ inside, pieces token.toList = [.placeholder inside] := by
  obtain ⟨x, hx, hmem⟩ := List.mem_flatMap.mp htoken
  obtain ⟨r, hr⟩ := List.mem_iff_getElem?.mp hx
  have hroom := (List.getElem?_eq_some_iff.mp hr).1
  have hregistry : a.registry r = x := by
    rw [Activity.registry, hr]
    rfl
  rw [← hregistry, (h.kept r).tokens_names, h.ids r hroom] at hmem
  obtain ⟨n, -, rfl⟩ := List.mem_map.mp hmem
  have hpieces := pieces_placeholder (hid r) n []
  rw [List.append_nil, pieces] at hpieces
  exact ⟨_, hpieces⟩

include hinj

/-- No two placeholders that were ever issued are the same. -/
theorem nodup_issuedTokens (h : Books a records) : a.issuedTokens.Nodup := by
  have hregistry : ∀ r (hr : r < a.registries.length), a.registries[r] = a.registry r := by
    intro r hr
    rw [Activity.registry, List.getElem?_eq_getElem hr]
    rfl
  rw [Activity.issuedTokens, List.nodup_flatMap]
  refine ⟨?_, ?_⟩
  · intro x hx
    obtain ⟨r, hr, rfl⟩ := List.mem_iff_getElem.mp hx
    rw [hregistry r hr]
    exact (h.kept r).nodup ((h.ids r hr).symm ▸ hid r)
  · rw [List.pairwise_iff_getElem]
    intro q r hq hr hlt token hmem hmem'
    rw [hregistry q hq] at hmem
    rw [hregistry r hr] at hmem'
    dsimp only at hmem hmem'
    rw [(h.kept q).tokens_names, h.ids q hq] at hmem
    rw [(h.kept r).tokens_names, h.ids r hr] at hmem'
    obtain ⟨n, -, rfl⟩ := List.mem_map.mp hmem
    obtain ⟨m, -, heq⟩ := List.mem_map.mp hmem'
    have hids := (placeholder_injective (hid r) (hid q) heq).1
    exact Nat.ne_of_gt hlt (hinj hids)

/-- No call that is pending has a placeholder of one that was taken. -/
theorem token_ne (h : Books a records) {r : Nat} {c : Pending} (hc : c ∈ (a.registry r).pending)
    {x : Nat × List Pending} (hx : x ∈ records) {d : Pending} (hd : d ∈ x.2) :
    d.token ≠ c.token := by
  intro heq
  have hd : d ∈ takenOf records x.1 := by
    rw [takenOf, List.mem_flatMap]
    exact ⟨x, hx, by rwa [if_pos rfl]⟩
  obtain ⟨n, hn⟩ := List.mem_iff_getElem?.mp hd
  obtain ⟨m, hm⟩ := List.mem_iff_getElem?.mp hc
  have hshort : n < (takenOf records x.1).length := (List.getElem?_eq_some_iff.mp hn).1
  have hdtoken := (h.token_eq (r := x.1) (n := n) (c := d)
    (by rw [List.getElem?_append_left hshort]; exact hn))
  have hctoken := (h.token_eq (r := r) (n := (takenOf records r).length + m) (c := c)
    (by rw [List.getElem?_append_right (Nat.le_add_right _ _), Nat.add_sub_cancel_left]; exact hm))
  rw [hdtoken, hctoken] at heq
  obtain ⟨hids, hnumbers⟩ := placeholder_injective (hid x.1) (hid r) heq
  rw [hinj hids] at hshort
  omega

theorem take (h : Books a records) (r : Nat) :
    Books (a.takePending r).2 (records ++ [(r, (a.takePending r).1)]) := by
  have hpending : (a.takePending r).1 = (a.registry r).pending := rfl
  rw [hpending]
  refine h.setRegistry r (a.registry r).take.2 rfl ?_ ?_ ?_ ?_
  · intro q hq
    rw [takenOf_append, if_neg hq, List.append_nil]
  · intro hr
    rw [takenOf_append, Activity.registry_of_le hr, if_pos rfl, List.append_nil]
  · rw [takenOf_append, if_pos rfl]
    exact (h.kept r).take
  · rw [List.flatMap_append, List.flatMap_singleton, List.nodup_append]
    refine ⟨h.apart, h.nodup_pending hid r, ?_⟩
    intro token htaken token' hpending heq
    obtain ⟨x, hx, htoken⟩ := List.mem_flatMap.mp htaken
    obtain ⟨d, hd, rfl⟩ := List.mem_map.mp htoken
    obtain ⟨c, hc, rfl⟩ := List.mem_map.mp hpending
    exact h.token_ne hid hinj hc hx hd heq

end Tokens

end Books
end DeferredViews.Deferred
