import DeferredViews.Proofs.Locals
import DeferredViews.Template.Scope

/-!
# What scopes hold

Two scopes that hold related values under every name stay related when both open a scope for the
same names and statements, and so do the locals that an included template sees of them.
-/
namespace DeferredViews.Template

theorem mem_of_lookup {α : Type} {l : List (String × α)} {name : String} {a : α}
    (h : l.lookup name = some a) : (name, a) ∈ l := by
  obtain ⟨l₁, l₂, rfl, -⟩ := List.lookup_eq_some_iff.mp h
  simp

theorem notMem_of_lookup {α : Type} {l : List (String × α)} {name : String}
    (h : l.lookup name = none) (a : α) : (name, a) ∉ l := by
  intro hmem
  have hne : (name != name) = true := List.lookup_eq_none_iff.mp h (name, a) hmem
  rw [bne_self_eq_false] at hne
  cases hne

/-- The frame of names that a scope receives. -/
def received (bound : List (String × Value)) : Frame :=
  bound.foldl (fun f (n, v) => f.set n (some v)) []

theorem Frame.mem_set {f : Frame} {n m : String} {x y : Option Value} (h : (m, y) ∈ f.set n x) :
    (m, y) = (n, x) ∨ (m, y) ∈ f := by
  induction f with
  | nil => exact .inl (List.mem_singleton.mp h)
  | cons entry f ih =>
    obtain ⟨k, z⟩ := entry
    rw [Frame.set] at h
    split at h
    · next heq =>
      subst heq
      rcases List.mem_cons.mp h with h | h
      · exact .inl h
      · exact .inr (List.mem_cons_of_mem _ h)
    · rcases List.mem_cons.mp h with h | h
      · rw [h]
        exact .inr List.mem_cons_self
      · rcases ih h with h | h
        · exact .inl h
        · exact .inr (List.mem_cons_of_mem _ h)

theorem Frame.mem_names_set (f : Frame) (n m : String) (x : Option Value) :
    m ∈ (f.set n x).map (·.1) ↔ m = n ∨ m ∈ f.map (·.1) := by
  induction f with
  | nil => simp [Frame.set]
  | cons entry f ih =>
    obtain ⟨k, z⟩ := entry
    rw [Frame.set]
    split
    · next heq =>
      subst heq
      simp
    · rw [List.map_cons, List.mem_cons, ih, List.map_cons, List.mem_cons]
      exact ⟨fun h => h.elim (fun h => .inr (.inl h)) fun h => h.elim .inl fun h => .inr (.inr h),
        fun h => h.elim (fun h => .inr (.inl h)) fun h => h.elim .inl fun h => .inr (.inr h)⟩

/-- A frame of received names holds what was received. -/
theorem mem_received {bound : List (String × Value)} {n : String} {x : Option Value}
    (h : (n, x) ∈ received bound) : ∃ v, x = some v ∧ (n, v) ∈ bound := by
  have hfrom : ∀ (bound : List (String × Value)) (f : Frame),
      (n, x) ∈ bound.foldl (fun f (n, v) => f.set n (some v)) f →
        (n, x) ∈ f ∨ ∃ v, x = some v ∧ (n, v) ∈ bound := by
    intro bound
    induction bound with
    | nil => exact fun f h => .inl h
    | cons entry bound ih =>
      obtain ⟨m, w⟩ := entry
      intro f h
      rcases ih (f.set m (some w)) h with h | ⟨v, hx, hv⟩
      · rcases Frame.mem_set h with h | h
        · cases h
          exact .inr ⟨w, rfl, List.mem_cons_self⟩
        · exact .inl h
      · exact .inr ⟨v, hx, List.mem_cons_of_mem _ hv⟩
  rcases hfrom bound [] h with h | h
  · cases h
  · exact h

theorem mem_names_received (bound : List (String × Value)) (n : String) :
    n ∈ (received bound).map (·.1) ↔ n ∈ bound.map (·.1) := by
  have hfrom : ∀ (bound : List (String × Value)) (f : Frame),
      n ∈ (bound.foldl (fun f (n, v) => f.set n (some v)) f).map (·.1) ↔
        n ∈ f.map (·.1) ∨ n ∈ bound.map (·.1) := by
    intro bound
    induction bound with
    | nil => simp
    | cons entry bound ih =>
      obtain ⟨m, w⟩ := entry
      intro f
      have hstep := ih (f.set m (some w))
      rw [Frame.mem_names_set] at hstep
      rw [List.foldl_cons, hstep, List.map_cons, List.mem_cons]
      exact ⟨fun h => h.elim (fun h => h.elim (fun h => .inr (.inl h)) .inl) fun h => .inr (.inr h),
        fun h => h.elim (fun h => .inl (.inr h)) fun h => h.elim (fun h => .inl (.inl h)) .inr⟩
  rw [received, hfrom bound []]
  simp

namespace Scope

/-- The value of a name, if it has one. -/
def value? (s : Scope) (name : String) : Option Value :=
  match s.frames.findSome? (List.lookup name) with
  | some v => v
  | none => s.base.get? name

theorem value_eq (s : Scope) (name : String) :
    s.value name = (s.value? name).getD (.absent (.name name)) := by
  rw [value, value?]
  cases s.frames.findSome? (List.lookup name) with
  | none => rfl
  | some v => cases v <;> rfl

/-- Two scopes hold related values under every name, and show related values to included
templates. -/
structure Match (P : String → Option Value → Option Value → Prop) (s t : Scope) : Prop where
  mentioned : s.mentioned = t.mentioned
  value : ∀ n, P n (s.value? n) (t.value? n)
  visible : ∀ n, P n (s.visible.get? n) (t.visible.get? n)

/-- The names that are absent when a scope opens. -/
def hidden (s : Scope) (bound : List (String × Value)) (body : List Stmt) : Frame :=
  (mentionAll s.mentioned ((bound.map (·.1)).foldl Mentions.receive {}) body).names.filterMap
    fun (n, h) => if h then some (n, none) else none

theorem enter_frames (s : Scope) (bound : List (String × Value)) (body : List Stmt) :
    (s.enter bound body).frames = (received bound ++ s.hidden bound body) :: s.frames := rfl

theorem mem_hidden {s : Scope} {bound : List (String × Value)} {body : List Stmt} {n : String}
    {x : Option Value} (h : (n, x) ∈ s.hidden bound body) : x = none := by
  obtain ⟨entry, -, hentry⟩ := List.mem_filterMap.mp h
  dsimp only at hentry
  split at hentry
  · cases hentry
    rfl
  · cases hentry

/-- What a scope holds after it opened another one. -/
theorem value?_enter (s : Scope) (bound : List (String × Value)) (body : List Stmt)
    (name : String) :
    (s.enter bound body).value? name =
      ((received bound ++ s.hidden bound body).lookup name).getD (s.value? name) := by
  rw [value?, enter_frames, List.findSome?_cons]
  cases (received bound ++ s.hidden bound body).lookup name <;> rfl

theorem visible_enter (s : Scope) (bound : List (String × Value)) (body : List Stmt) :
    (s.enter bound body).visible =
      s.visible.update ((received bound ++ s.hidden bound body).filterMap
        fun (n, v) => v.map (n, ·)) := by
  rw [visible, enter_frames, List.reverse_cons, List.foldl_append]
  rfl

section Entered

variable (s : Scope) (bound : List (String × Value)) (body : List Stmt) (n : String)

/-- What a new scope says of a name: nothing of one that it did not get, the value of one that it
got, or that it is hidden. -/
theorem lookup_enter_cases :
    ((received bound ++ s.hidden bound body).lookup n = none ∧ n ∉ bound.map (·.1)) ∨
      (∃ v, (received bound ++ s.hidden bound body).lookup n = some (some v) ∧ (n, v) ∈ bound) ∨
      (received bound ++ s.hidden bound body).lookup n = some none := by
  cases hlookup : (received bound ++ s.hidden bound body).lookup n with
  | none =>
    refine .inl ⟨rfl, fun hmem => ?_⟩
    obtain ⟨⟨m, x⟩, hx, rfl⟩ := List.mem_map.mp ((mem_names_received bound n).mpr hmem)
    exact notMem_of_lookup hlookup x (List.mem_append_left _ hx)
  | some x =>
    rcases List.mem_append.mp (mem_of_lookup hlookup) with hx | hx
    · obtain ⟨v, rfl, hv⟩ := mem_received hx
      exact .inr (.inl ⟨v, rfl, hv⟩)
    · rw [mem_hidden hx]
      exact .inr (.inr rfl)

/-- What a new scope shows to an included template. -/
theorem mem_shown {v : Value} : (n, v) ∈ (received bound ++ s.hidden bound body).filterMap
    (fun (n, v) => v.map (n, ·)) ↔ (n, some v) ∈ received bound := by
  rw [List.mem_filterMap]
  constructor
  · rintro ⟨⟨m, x⟩, hx, heq⟩
    cases x with
    | none => cases heq
    | some u =>
      cases heq
      refine (List.mem_append.mp hx).resolve_right fun hx => ?_
      cases mem_hidden hx
  · exact fun hx => ⟨(n, some v), List.mem_append_left _ hx, rfl⟩

theorem lookup_shown_cases :
    (((received bound ++ s.hidden bound body).filterMap
        (fun (n, v) => v.map (n, ·))).reverse.lookup n = none ∧ n ∉ bound.map (·.1)) ∨
      ∃ v, ((received bound ++ s.hidden bound body).filterMap
        (fun (n, v) => v.map (n, ·))).reverse.lookup n = some v ∧ (n, v) ∈ bound := by
  cases hlookup : ((received bound ++ s.hidden bound body).filterMap
    (fun (n, v) => v.map (n, ·))).reverse.lookup n with
  | none =>
    refine .inl ⟨rfl, fun hmem => ?_⟩
    obtain ⟨⟨m, x⟩, hx, rfl⟩ := List.mem_map.mp ((mem_names_received bound n).mpr hmem)
    obtain ⟨v, rfl, hv⟩ := mem_received hx
    exact notMem_of_lookup hlookup v (List.mem_reverse.mpr ((mem_shown s bound body m).mpr hx))
  | some v =>
    have hmem := (mem_shown s bound body n).mp (List.mem_reverse.mp (mem_of_lookup hlookup))
    obtain ⟨u, hu, hv⟩ := mem_received hmem
    cases hu
    exact .inr ⟨v, rfl, hv⟩

end Entered

/-- Opening the same scope in both keeps the relation for all other names. -/
theorem Match.enter {P Q : String → Option Value → Option Value → Prop} {s t : Scope}
    (h : Match P s t) {bound : List (String × Value)} (body : List Stmt)
    (hnone : ∀ n, Q n none none) (hbound : ∀ n v, (n, v) ∈ bound → Q n (some v) (some v))
    (hother : ∀ n x y, n ∉ bound.map (·.1) → P n x y → Q n x y) :
    Match Q (s.enter bound body) (t.enter bound body) := by
  have hhidden : s.hidden bound body = t.hidden bound body := by
    rw [hidden, hidden, h.mentioned]
  refine ⟨?_, ?_, ?_⟩
  · show s.mentioned ++ _ = t.mentioned ++ _
    rw [h.mentioned]
  · intro n
    rw [value?_enter, value?_enter, ← hhidden]
    obtain ⟨hlookup, hn⟩ | ⟨v, hlookup, hv⟩ | hlookup := s.lookup_enter_cases bound body n
    · rw [hlookup]
      exact hother n _ _ hn (h.value n)
    · rw [hlookup]
      exact hbound n v hv
    · rw [hlookup]
      exact hnone n
  · intro n
    rw [visible_enter, visible_enter, ← hhidden, Locals.get?_update, Locals.get?_update]
    obtain ⟨hlookup, hn⟩ | ⟨v, hlookup, hv⟩ := s.lookup_shown_cases bound body n
    · rw [hlookup]
      exact hother n _ _ hn (h.visible n)
    · rw [hlookup]
      exact hbound n v hv

/-- Related locals make related scopes of whole templates. -/
theorem Match.ofLocals {P : String → Option Value → Option Value → Prop} {l m : Locals}
    (h : ∀ n, P n (l.get? n) (m.get? n)) (hnone : ∀ n, P n none none) (body : List Stmt) :
    Match P (Scope.ofLocals l body) (Scope.ofLocals m body) := by
  have hstart : Match P (Scope.mk [] l []) (Scope.mk [] m []) := ⟨rfl, h, h⟩
  exact hstart.enter body hnone nofun fun _ _ _ _ hP => hP

end Scope
end DeferredViews.Template
