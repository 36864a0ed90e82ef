import DeferredViews.Value.Compare

/-!
# Caches of compiled templates

Pages are kept by their absolute path and layouts by their name, in two separate spaces. A cache
only grows until it is cleared; it is read by every render and written by those that ask for it.
-/
namespace DeferredViews.View

/-- The two spaces of keys. -/
inductive Space where
  | file
  | layout
  deriving DecidableEq, Repr

def Space.text : Space → String
  | .file => "file"
  | .layout => "layout"

theorem Space.text_injective {space space' : Space} (h : space.text = space'.text) :
    space = space' := by
  cases space with
  | file =>
    cases space' with
    | file => rfl
    | layout => exact absurd h (by decide)
  | layout =>
    cases space' with
    | file => exact absurd h (by decide)
    | layout => rfl

structure Cache (α : Type) where
  entries : List ((String × String) × α) := []

namespace Cache

variable {α : Type}

/-- The entry of a key in a space. -/
def get? (c : Cache α) (space key : String) : Option α := c.entries.lookup (space, key)

/-- Keep an entry; an entry with the same key keeps its place and is replaced. -/
def insert (c : Cache α) (space key : String) (a : α) : Cache α :=
  if (c.get? space key).isSome then
    ⟨c.entries.map fun (k, b) => if k = (space, key) then (k, a) else (k, b)⟩
  else ⟨c.entries ++ [((space, key), a)]⟩

/-- Keep an entry if that is wanted; the answer says whether it was kept. -/
def put (c : Cache α) (space key : String) (a : α) (enabled : Bool) : Bool × Cache α :=
  if enabled then (true, c.insert space key a) else (false, c)

/-- Whether a cache has an item: a pair names the space and the key, a text is the key of a file.
Items that cannot be keys at all are refused. -/
def has (c : Cache α) (item : Value) : Except Fault Bool :=
  if item.hashable then
    .ok (match item with
      | .tuple [.str space, .str key] => (c.get? space key).isSome
      | .str key => (c.get? Space.file.text key).isSome
      | _ => false)
  else .error (.type (.unhashable item.typeName))

def clear (_ : Cache α) : Cache α := ⟨[]⟩

def size (c : Cache α) : Nat := c.entries.length

theorem lookup_map_replace {β γ : Type} [BEq β] [LawfulBEq β] [DecidableEq β]
    (l : List (β × γ)) (k : β) (a : γ) (h : (l.lookup k).isSome) :
    (l.map fun (j, b) => if j = k then (j, a) else (j, b)).lookup k = some a := by
  induction l with
  | nil => simp at h
  | cons e l ih =>
    obtain ⟨j, b⟩ := e
    by_cases hj : j = k
    · simp [hj]
    · have hk : (k == j) = false := by simpa using fun e => hj e.symm
      simp only [List.lookup_cons, hk] at h
      simp [hj, List.lookup_cons, hk, ih h]

theorem get?_insert_self (c : Cache α) (space key : String) (a : α) :
    (c.insert space key a).get? space key = some a := by
  unfold insert
  split
  · next h => exact lookup_map_replace c.entries (space, key) a h
  · next h =>
    have hn : c.entries.lookup (space, key) = none := Option.not_isSome_iff_eq_none.mp h
    simp [get?, List.lookup_append, hn]

theorem lookup_map_replace_of_ne {β γ : Type} [BEq β] [LawfulBEq β] [DecidableEq β]
    (l : List (β × γ)) {k j : β} (a : γ) (h : j ≠ k) :
    (l.map fun (i, b) => if i = k then (i, a) else (i, b)).lookup j = l.lookup j := by
  induction l with
  | nil => rfl
  | cons e l ih =>
    obtain ⟨i, b⟩ := e
    by_cases hi : i = k
    · subst hi
      have hj : (j == i) = false := by simpa using h
      simp only [List.map_cons, if_true, List.lookup_cons, hj, ih]
    · simp only [List.map_cons, hi, if_false, List.lookup_cons, ih]

/-- To keep an entry leaves the entries of other keys as they are. -/
theorem get?_insert_of_ne (c : Cache α) {space key space' key' : String} (a : α)
    (h : (space', key') ≠ (space, key)) :
    (c.insert space key a).get? space' key' = c.get? space' key' := by
  have hb : ((space', key') == (space, key)) = false := by simpa using h
  unfold insert
  split
  · exact lookup_map_replace_of_ne c.entries a h
  · show (c.entries ++ [((space, key), a)]).lookup (space', key') = _
    rw [List.lookup_append, List.lookup_cons, hb]
    simp [get?]

/-- An entry of a cache after one more is kept. -/
theorem mem_insert {c : Cache α} {space key : String} {a : α} {e : (String × String) × α}
    (h : e ∈ (c.insert space key a).entries) : e ∈ c.entries ∨ e = ((space, key), a) := by
  rw [insert] at h
  split at h
  · obtain ⟨⟨k, b⟩, hmem, heq⟩ := List.mem_map.mp h
    dsimp only at heq
    split at heq
    · next hk =>
      subst hk
      exact .inr heq.symm
    · rw [← heq]
      exact .inl hmem
  · rcases List.mem_append.mp h with h | h
    · exact .inl h
    · exact .inr (List.mem_singleton.mp h)

theorem mem_put {c : Cache α} {space key : String} {a : α} {enabled : Bool}
    {e : (String × String) × α} (h : e ∈ (c.put space key a enabled).2.entries) :
    e ∈ c.entries ∨ e = ((space, key), a) := by
  cases enabled with
  | true => exact mem_insert h
  | false => exact .inl h

theorem mem_of_get? {c : Cache α} {space key : String} {a : α}
    (h : c.get? space key = some a) : ((space, key), a) ∈ c.entries := by
  obtain ⟨l₁, l₂, heq, -⟩ := List.lookup_eq_some_iff.mp h
  rw [heq]
  simp

@[simp] theorem put_disabled (c : Cache α) (space key : String) (a : α) :
    c.put space key a false = (false, c) := rfl

@[simp] theorem get?_clear (c : Cache α) (space key : String) :
    c.clear.get? space key = none := rfl

end Cache
end DeferredViews.View
