import DeferredViews.Value.Basic
import Mathlib.Data.List.Nodup

/-!
# Locals as mappings

To bind a name once more replaces what it was bound to and leaves all others as they are. Names that
are bound together count from the last one on; where all of them are different, their order does not
matter, and to bind them again changes nothing.
-/
namespace DeferredViews.Locals

/-- To bind many names is to look among them first, from the last one on. -/
theorem get?_update (l more : Locals) (name : String) :
    (l.update more).get? name = (more.reverse.lookup name).or (l.get? name) := by
  induction more generalizing l with
  | nil => rfl
  | cons entry more ih =>
    obtain ⟨n, v⟩ := entry
    have hstep : l.update ((n, v) :: more) = Locals.update (l.set n v) more := rfl
    rw [hstep, ih, List.reverse_cons, List.lookup_append]
    cases more.reverse.lookup name with
    | some w => rfl
    | none =>
      rw [Option.none_or, Option.none_or]
      by_cases hname : name = n
      · subst hname
        rw [l.get?_set_self name v, List.lookup_cons, beq_self_eq_true]
        rfl
      · have hbeq : (name == n) = false := beq_eq_false_iff_ne.mpr hname
        rw [l.get?_set_of_ne v hname, List.lookup_cons, hbeq, List.lookup_nil]
        rfl

theorem lookup_reverse {l : Locals} (h : (l.map (·.1)).Nodup) (name : String) :
    l.reverse.lookup name = l.get? name := by
  induction l with
  | nil => rfl
  | cons entry l ih =>
    obtain ⟨n, v⟩ := entry
    obtain ⟨hn, hl⟩ := List.nodup_cons.mp h
    rw [List.reverse_cons, List.lookup_append, ih hl, get?, get?, List.lookup_cons]
    by_cases hname : name = n
    · subst hname
      have hnone : l.lookup name = none := by
        rw [List.lookup_eq_none_iff]
        intro p hp
        have hne : name ≠ p.1 := by
          rintro rfl
          exact hn (List.mem_map.mpr ⟨p, hp, rfl⟩)
        exact bne_iff_ne.mpr hne
      rw [hnone, beq_self_eq_true, Option.none_or, List.lookup_cons, beq_self_eq_true]
    · have hbeq : (name == n) = false := beq_eq_false_iff_ne.mpr hname
      rw [hbeq, List.lookup_cons, hbeq, List.lookup_nil, Option.or_none]

theorem get?_update_nodup (l : Locals) {more : Locals} (h : (more.map (·.1)).Nodup)
    (name : String) : (l.update more).get? name = (more.get? name).or (l.get? name) := by
  rw [get?_update, lookup_reverse h]

/-- To bind a name changes no other one, also where the last entry of a name counts. -/
theorem get?_update_set_of_ne (l more : Locals) {name other : String} (v : Value)
    (h : other ≠ name) : (l.update (more.set name v)).get? other = (l.update more).get? other := by
  have hbeq : (other == name) = false := beq_eq_false_iff_ne.mpr h
  have hlookup : (more.set name v).reverse.lookup other = more.reverse.lookup other := by
    induction more with
    | nil =>
      show List.lookup other [(name, v)] = none
      rw [List.lookup_cons, hbeq, List.lookup_nil]
    | cons entry more ih =>
      obtain ⟨k, w⟩ := entry
      rw [set]
      split
      · next hk =>
        subst hk
        rw [List.reverse_cons, List.reverse_cons, List.lookup_append, List.lookup_append,
          List.lookup_cons, List.lookup_cons, hbeq]
      · rw [List.reverse_cons, List.reverse_cons, List.lookup_append, List.lookup_append, ih]
  rw [get?_update, get?_update, hlookup]

theorem names_set (l : Locals) (name : String) (v : Value) :
    (l.set name v).map (·.1) =
      if name ∈ l.map (·.1) then l.map (·.1) else l.map (·.1) ++ [name] := by
  induction l with
  | nil => rfl
  | cons entry l ih =>
    obtain ⟨n, w⟩ := entry
    rw [set]
    by_cases hname : name = n
    · subst hname
      rw [if_pos rfl]
      exact (if_pos List.mem_cons_self).symm
    · rw [if_neg hname, List.map_cons, ih, List.map_cons]
      by_cases hmem : name ∈ l.map (·.1)
      · rw [if_pos hmem, if_pos (List.mem_cons_of_mem _ hmem)]
      · have hnot : name ∉ n :: l.map (·.1) := fun h =>
          (List.mem_cons.mp h).elim hname hmem
        rw [if_neg hmem, if_neg hnot, List.cons_append]

theorem nodup_set {l : Locals} (h : (l.map (·.1)).Nodup) (name : String) (v : Value) :
    ((l.set name v).map (·.1)).Nodup := by
  rw [names_set]
  split
  · exact h
  · next hmem =>
    refine List.nodup_append.mpr ⟨h, by simp, ?_⟩
    rintro a ha b hb rfl
    rw [List.mem_singleton.mp hb] at ha
    exact hmem ha

theorem set_set (l : Locals) (name : String) (v w : Value) :
    (l.set name v).set name w = l.set name w := by
  induction l with
  | nil => simp [set]
  | cons e l ih =>
    obtain ⟨k, u⟩ := e
    by_cases h : name = k
    · simp [set, h]
    · simp [set, h, ih]

theorem get?_of_mem {l : Locals} (h : (l.map (·.1)).Nodup) {p : String × Value} (hp : p ∈ l) :
    l.get? p.1 = some p.2 := by
  induction l with
  | nil => cases hp
  | cons entry l ih =>
    obtain ⟨hnew, hrest⟩ := List.nodup_cons.mp h
    rcases List.mem_cons.mp hp with rfl | hp
    · rw [get?, List.lookup_cons_self]
    · have hbeq : (p.1 == entry.1) = false := by
        exact beq_eq_false_iff_ne.mpr fun heq => hnew (List.mem_map.mpr ⟨p, hp, heq⟩)
      rw [get?, List.lookup_cons, hbeq]
      exact ih hrest hp

theorem set_of_get? {l : Locals} {name : String} {v : Value} (h : l.get? name = some v) :
    l.set name v = l := by
  induction l with
  | nil => cases h
  | cons entry l ih =>
    obtain ⟨n, w⟩ := entry
    rw [set]
    by_cases hname : name = n
    · subst hname
      rw [get?, List.lookup_cons_self] at h
      rw [if_pos rfl, Option.some.inj h]
    · have hbeq : (name == n) = false := beq_eq_false_iff_ne.mpr hname
      rw [get?, List.lookup_cons, hbeq] at h
      rw [if_neg hname, ih h]

/-- To bind the same names again changes nothing. -/
theorem update_update (l : Locals) {more : Locals} (h : (more.map (·.1)).Nodup) :
    (l.update more).update more = l.update more := by
  have hbound : ∀ p ∈ more, (l.update more).get? p.1 = some p.2 := by
    intro p hp
    rw [get?_update_nodup l h, get?_of_mem h hp, Option.some_or]
  generalize l.update more = bound at hbound
  clear h
  induction more with
  | nil => rfl
  | cons p more ih =>
    show Locals.update (bound.set p.1 p.2) more = bound
    rw [set_of_get? (hbound p List.mem_cons_self)]
    exact ih fun p' hp' => hbound p' (List.mem_cons_of_mem _ hp')

end DeferredViews.Locals
