import DeferredViews.Proofs.Reading
import DeferredViews.Template.Evaluate

/-!
# Plain values

A plain value is data: it is no function and no method, and neither its text nor that of the items
that a loop reaches holds a delimiter. Whatever a template prints of it is free of delimiters.
-/
namespace DeferredViews.Value

open Deferred Text

mutual

/-- Whether a value is data without delimiters, with everything that a loop over it reaches. -/
def isPlain : Value → Bool
  | str s => !tainted s.toList
  | markup s => !tainted s.toList
  | list xs => !tainted (list xs).text.toList && arePlain xs
  | tuple xs => !tainted (tuple xs).text.toList && arePlain xs
  | view name xs => !tainted (view name xs).text.toList && arePlain xs
  | dict es => !tainted (dict es).text.toList && keysPlain es
  | function _ => false
  | method _ _ => false
  | v => !tainted v.text.toList

def arePlain : List Value → Bool
  | [] => true
  | v :: more => v.isPlain && arePlain more

def keysPlain : List (Value × Value) → Bool
  | [] => true
  | (k, _) :: more => k.isPlain && keysPlain more

end

theorem arePlain_iff (xs : List Value) : arePlain xs = true ↔ ∀ x ∈ xs, x.isPlain = true := by
  induction xs with
  | nil => simp [arePlain]
  | cons x xs ih => simp [arePlain, ih]

theorem keysPlain_iff (es : List (Value × Value)) :
    keysPlain es = true ↔ ∀ e ∈ es, e.1.isPlain = true := by
  induction es with
  | nil => simp [keysPlain]
  | cons e es ih =>
    obtain ⟨k, v⟩ := e
    simp [keysPlain, ih]

theorem isPlain_str {s : String} (h : tainted s.toList = false) : (str s).isPlain = true := by
  rw [isPlain, h]
  rfl

@[simp] theorem isPlain_absent (why : Missing) : (absent why).isPlain = true := by
  simp [isPlain, tainted]

/-- The text of a plain value is free of delimiters. -/
theorem tainted_text {v : Value} (h : v.isPlain = true) : tainted v.text.toList = false := by
  cases v with
  | function f =>
    rw [isPlain] at h
    cases h
  | method owner name =>
    rw [isPlain] at h
    cases h
  | _ =>
    simp only [isPlain, Bool.and_eq_true, Bool.not_eq_true'] at h
    first
      | exact h
      | exact h.1

theorem isPlain_characters {s : String} (h : tainted s.toList = false) :
    ∀ x ∈ characters s, x.isPlain = true := by
  intro x hx
  obtain ⟨c, hc, rfl⟩ := List.mem_map.mp hx
  have hne : c ≠ delimiter := by
    rintro rfl
    rw [tainted, List.contains_eq_mem, decide_eq_false_iff_not] at h
    exact h hc
  refine isPlain_str ?_
  rw [String.toList_singleton, tainted_cons, decide_eq_false hne]
  rfl

/-- The items of a plain value are plain. -/
theorem isPlain_items {v : Value} (h : v.isPlain = true) {xs : List Value}
    (hitems : v.items = .ok xs) : ∀ x ∈ xs, x.isPlain = true := by
  have htext := tainted_text h
  cases v with
  | str s =>
    cases hitems
    exact isPlain_characters htext
  | markup s =>
    cases hitems
    exact isPlain_characters htext
  | list ys =>
    cases hitems
    rw [isPlain, Bool.and_eq_true] at h
    exact (arePlain_iff xs).mp h.2
  | tuple ys =>
    cases hitems
    rw [isPlain, Bool.and_eq_true] at h
    exact (arePlain_iff xs).mp h.2
  | view name ys =>
    cases hitems
    rw [isPlain, Bool.and_eq_true] at h
    exact (arePlain_iff xs).mp h.2
  | dict es =>
    cases hitems
    rw [isPlain, Bool.and_eq_true] at h
    intro x hx
    obtain ⟨e, he, rfl⟩ := List.mem_map.mp hx
    exact (keysPlain_iff es).mp h.2 e he
  | absent why =>
    cases hitems
    exact nofun
  | _ => cases hitems

theorem tainted_digits (n : Nat) : tainted (toString n).toList = false := by
  rw [tainted, List.contains_eq_mem, decide_eq_false_iff_not]
  intro hmem
  have hdigit : isDigit delimiter = true := by
    refine isDigit_of_mem_toDecimal (n := n) ?_
    rwa [Nat.toString_eq_ofList_toDigits, String.toList_ofList] at hmem
  cases (by decide : isDigit delimiter = false).symm.trans hdigit

/-- The state of a loop is plain. -/
theorem isPlain_loop (index length : Nat) : (loop index length).isPlain = true := by
  have htext : (loop index length).text =
      "<LoopContext " ++ toString (index + 1) ++ "/" ++ toString length ++ ">" := rfl
  have hopen : tainted "<LoopContext ".toList = false := by decide
  have hslash : tainted "/".toList = false := by decide
  have hclose : tainted ">".toList = false := by decide
  simp only [isPlain, htext, String.toList_append, tainted_append, tainted_digits, hopen, hslash,
    hclose, Bool.or_self, Bool.not_false]

theorem tainted_escapeHtml {s : List Char} (h : tainted s = false) :
    tainted (escapeHtml s) = false := by
  have hchar : ∀ c : Char, c ≠ delimiter → tainted (escapeHtmlChar c) = false := by
    intro c hc
    unfold escapeHtmlChar
    split
    · decide
    · decide
    · decide
    · decide
    · decide
    · rw [tainted_cons, decide_eq_false hc]
      rfl
  induction s with
  | nil => rfl
  | cons c s ih =>
    rw [tainted_cons, Bool.or_eq_false_iff, decide_eq_false_iff_not] at h
    have hsplit : escapeHtml (c :: s) = escapeHtmlChar c ++ escapeHtml s := rfl
    rw [hsplit, tainted_append, hchar c h.1, ih h.2]
    rfl

/-- What a plain value prints is free of delimiters. -/
theorem tainted_printed {v : Value} (h : v.isPlain = true) (autoescape : Bool) :
    tainted (v.printed autoescape).toList = false := by
  have htext := tainted_text h
  have hescaped : tainted (escaped v.text).toList = false := by
    rw [escaped, String.toList_ofList]
    exact tainted_escapeHtml htext
  rw [printed]
  cases autoescape with
  | false => exact htext
  | true =>
    rw [if_pos rfl]
    cases v with
    | markup s => exact htext
    | _ => exact hescaped

/-- Markup is printed as it is. -/
theorem printed_markup (autoescape : Bool) (s : String) :
    (markup s).printed autoescape = s := by
  cases autoescape <;> rfl

end DeferredViews.Value

namespace DeferredViews.Template

open Value

theorem isPlain_unpack {n : Nat} {v : Value} (h : v.isPlain = true) {xs : List Value}
    (hunpack : unpack n v = .ok xs) : ∀ x ∈ xs, x.isPlain = true := by
  rw [unpack] at hunpack
  cases hitems : v.items with
  | error f =>
    rw [hitems] at hunpack
    cases hunpack
  | ok ys =>
    rw [hitems] at hunpack
    dsimp only at hunpack
    split at hunpack
    · cases hunpack
    · split at hunpack
      · cases hunpack
      · cases hunpack
        exact isPlain_items h hitems

mutual

/-- A target binds its own names. -/
theorem bind_spec : (target : Target) → (v : Value) → v.isPlain = true →
    (bound : List (String × Value)) → target.bind v = .ok bound →
    bound.map (·.1) = target.names ∧ ∀ p ∈ bound, p.2.isPlain = true
  | .name n, v, hv, bound, hbound => by
    rw [Target.bind] at hbound
    cases hbound
    refine ⟨rfl, ?_⟩
    intro p hp
    rw [List.mem_singleton.mp hp]
    exact hv
  | .tuple items, v, hv, bound, hbound => by
    rw [Target.bind] at hbound
    cases hunpack : unpack items.length v with
    | error f =>
      rw [hunpack] at hbound
      cases hbound
    | ok xs =>
      rw [hunpack] at hbound
      have hlength : items.length = xs.length := by
        rw [unpack] at hunpack
        split at hunpack
        · cases hunpack
        · split at hunpack
          · cases hunpack
          · split at hunpack
            · cases hunpack
            · cases hunpack
              omega
      exact bindAll_spec items xs (isPlain_unpack hv hunpack) hlength bound hbound

theorem bindAll_spec : (targets : List Target) → (vs : List Value) →
    (∀ v ∈ vs, v.isPlain = true) → targets.length = vs.length →
    (bound : List (String × Value)) → bindAll targets vs = .ok bound →
    bound.map (·.1) = Target.names.namesOf targets ∧ ∀ p ∈ bound, p.2.isPlain = true
  | [], [], _, _, bound, hbound => by
    rw [bindAll] at hbound
    · cases hbound
      exact ⟨rfl, nofun⟩
    · exact nofun
  | [], _ :: _, _, hlength, _, _ => by cases hlength
  | _ :: _, [], _, hlength, _, _ => by cases hlength
  | target :: targets, v :: vs, hvs, hlength, bound, hbound => by
    rw [bindAll] at hbound
    cases hfirst : target.bind v with
    | error f =>
      rw [hfirst] at hbound
      cases hbound
    | ok first =>
      rw [hfirst] at hbound
      cases hrest : bindAll targets vs with
      | error f =>
        simp only [hrest] at hbound
        cases hbound
      | ok rest =>
        simp only [hrest] at hbound
        cases hbound
        obtain ⟨hnames, hplain⟩ := bind_spec target v (hvs v List.mem_cons_self) first hfirst
        obtain ⟨hnames', hplain'⟩ := bindAll_spec targets vs
          (fun u hu => hvs u (List.mem_cons_of_mem _ hu)) (Nat.succ.inj hlength) rest hrest
        refine ⟨?_, ?_⟩
        · rw [List.map_append, hnames, hnames']
          rfl
        · intro p hp
          rcases List.mem_append.mp hp with hp | hp
          · exact hplain p hp
          · exact hplain' p hp

end

end DeferredViews.Template
