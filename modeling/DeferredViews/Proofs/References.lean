import DeferredViews.Config.Environment
import DeferredViews.Proofs.Scans

/-!
# References to the environment

The references in a text are the words of one scan from the left, and a tree of values is resolved
text by text: what is put in is not looked at again, and everything that is no text in value position
stays as it is. The first variable in the order of the document that is not set is the one that a
fault names.
-/
namespace DeferredViews

namespace Value

mutual

/-- What stands in value position in a tree, depth first and in order: everything but lists and
mappings. -/
def leaves : Value → List Value
  | list items => leavesOfItems items
  | dict entries => leavesOfEntries entries
  | v => [v]

def leavesOfItems : List Value → List Value
  | [] => []
  | v :: more => v.leaves ++ leavesOfItems more

def leavesOfEntries : List (Value × Value) → List Value
  | [] => []
  | (_, v) :: more => v.leaves ++ leavesOfEntries more

end

/-- The texts in value position, depth first and in order. -/
def texts (v : Value) : List String := v.leaves.filterMap text?

mutual

/-- A tree with other texts in value position. -/
def mapTexts (f : String → String) : Value → Value
  | str s | markup s => str (f s)
  | list items => list (mapTextsOfItems f items)
  | dict entries => dict (mapTextsOfEntries f entries)
  | v => v

def mapTextsOfItems (f : String → String) : List Value → List Value
  | [] => []
  | v :: more => v.mapTexts f :: mapTextsOfItems f more

def mapTextsOfEntries (f : String → String) : List (Value × Value) → List (Value × Value)
  | [] => []
  | (k, v) :: more => (k, v.mapTexts f) :: mapTextsOfEntries f more

end

theorem mapTextsOfItems_eq (f : String → String) (items : List Value) :
    mapTextsOfItems f items = items.map (mapTexts f) := by
  induction items with
  | nil => rfl
  | cons v more ih => rw [mapTextsOfItems, ih, List.map_cons]

theorem mapTextsOfEntries_eq (f : String → String) (entries : List (Value × Value)) :
    mapTextsOfEntries f entries = entries.map fun (k, v) => (k, v.mapTexts f) := by
  induction entries with
  | nil => rfl
  | cons e more ih => rw [mapTextsOfEntries, ih, List.map_cons]

@[simp] theorem mapTexts_list (f : String → String) (items : List Value) :
    (list items).mapTexts f = list (items.map (mapTexts f)) :=
  congrArg list (mapTextsOfItems_eq f items)

@[simp] theorem mapTexts_dict (f : String → String) (entries : List (Value × Value)) :
    (dict entries).mapTexts f = dict (entries.map fun (k, v) => (k, v.mapTexts f)) :=
  congrArg dict (mapTextsOfEntries_eq f entries)

section

variable {f g : String → String}

mutual

/-- Of a function on texts, only what it does with the texts of the tree counts. -/
theorem mapTexts_congr : ∀ {v : Value}, (∀ s ∈ v.texts, f s = g s) → v.mapTexts f = v.mapTexts g
  | str s, h | markup s, h => congrArg str (h s List.mem_cons_self)
  | list _, h => congrArg list (mapTextsOfItems_congr h)
  | dict _, h => congrArg dict (mapTextsOfEntries_congr h)
  | null, _ | bool _, _ | int _, _ | float _, _ | tuple _, _ | day _, _ | moment _, _ | function _, _
  | method .., _ | view .., _ | loop .., _ | slice .., _ | absent _, _ => rfl

theorem mapTextsOfItems_congr : ∀ {items : List Value},
    (∀ s ∈ (leavesOfItems items).filterMap text?, f s = g s) →
      mapTextsOfItems f items = mapTextsOfItems g items
  | [], _ => rfl
  | v :: more, h => by
    rw [leavesOfItems, List.filterMap_append] at h
    rw [mapTextsOfItems, mapTextsOfItems,
      mapTexts_congr fun s hs => h s (List.mem_append_left _ hs),
      mapTextsOfItems_congr fun s hs => h s (List.mem_append_right _ hs)]

theorem mapTextsOfEntries_congr : ∀ {entries : List (Value × Value)},
    (∀ s ∈ (leavesOfEntries entries).filterMap text?, f s = g s) →
      mapTextsOfEntries f entries = mapTextsOfEntries g entries
  | [], _ => rfl
  | (k, v) :: more, h => by
    rw [leavesOfEntries, List.filterMap_append] at h
    rw [mapTextsOfEntries, mapTextsOfEntries,
      mapTexts_congr fun s hs => h s (List.mem_append_left _ hs),
      mapTextsOfEntries_congr fun s hs => h s (List.mem_append_right _ hs)]

end

mutual

/-- A tree without markup is the tree of its own texts. -/
theorem mapTexts_id : ∀ {v : Value}, (∀ l ∈ v.leaves, l.isMarkup = false) → v.mapTexts id = v
  | markup s, h => absurd (h (markup s) List.mem_cons_self) nofun
  | list _, h => congrArg list (mapTextsOfItems_id h)
  | dict _, h => congrArg dict (mapTextsOfEntries_id h)
  | str _, _ | null, _ | bool _, _ | int _, _ | float _, _ | tuple _, _ | day _, _ | moment _, _
  | function _, _ | method .., _ | view .., _ | loop .., _ | slice .., _ | absent _, _ => rfl

theorem mapTextsOfItems_id : ∀ {items : List Value},
    (∀ l ∈ leavesOfItems items, l.isMarkup = false) → mapTextsOfItems id items = items
  | [], _ => rfl
  | v :: more, h => by
    rw [leavesOfItems] at h
    rw [mapTextsOfItems, mapTexts_id fun l hl => h l (List.mem_append_left _ hl),
      mapTextsOfItems_id fun l hl => h l (List.mem_append_right _ hl)]

theorem mapTextsOfEntries_id : ∀ {entries : List (Value × Value)},
    (∀ l ∈ leavesOfEntries entries, l.isMarkup = false) → mapTextsOfEntries id entries = entries
  | [], _ => rfl
  | (k, v) :: more, h => by
    rw [leavesOfEntries] at h
    rw [mapTextsOfEntries, mapTexts_id fun l hl => h l (List.mem_append_left _ hl),
      mapTextsOfEntries_id fun l hl => h l (List.mem_append_right _ hl)]

end

end

end Value

namespace Config

open Text

/-! ## The references in a text -/

/-- How a reference to a variable is spelled. -/
def spelling (name : List Char) : List Char := '$' :: '\x7b' :: (name ++ ['\x7d'])

/-- A reference: a name of one or more characters other than a closing brace, between its marks. -/
def IsReference (w : List Char) : Prop := ∃ name, name ≠ [] ∧ '\x7d' ∉ name ∧ w = spelling name

/-- What a part of a text was in the text. -/
def Part.fragment : Part → Fragment
  | plain c => .single c
  | reference name => .word (spelling name)

theorem readReference_eq_some {s name rest : List Char} :
    readReference s = some (name, rest) ↔
      name ≠ [] ∧ '\x7d' ∉ name ∧ s = name ++ '\x7d' :: rest := by
  constructor
  · intro h
    unfold readReference at h
    split at h
    · next c n d r htake hdrop =>
      obtain ⟨rfl, rfl⟩ := Prod.mk.inj (Option.some.inj h)
      have hclosing := List.head?_dropWhile_not (· ≠ '\x7d') s
      rw [hdrop] at hclosing
      obtain rfl : d = '\x7d' := by simpa using hclosing
      have hname : ∀ x ∈ c :: n, x ≠ '\x7d' := by
        have hall := List.all_takeWhile (p := (· ≠ '\x7d')) (l := s)
        rw [htake, List.all_eq_true] at hall
        exact fun x hx => of_decide_eq_true (hall x hx)
      refine ⟨nofun, fun hmem => hname _ hmem rfl, ?_⟩
      rw [← htake, ← hdrop, List.takeWhile_append_dropWhile]
    · cases h
  · rintro ⟨hne, hname, rfl⟩
    obtain ⟨c, n, rfl⟩ := List.exists_cons_of_ne_nil hne
    have hall : ∀ d ∈ c :: n, decide (d ≠ '\x7d') = true := by
      intro d hd
      exact decide_eq_true (by rintro rfl; exact hname hd)
    unfold readReference
    rw [List.takeWhile_append_of_pos hall, List.dropWhile_append_of_pos hall]
    simp

theorem prefixFree_isReference : PrefixFree IsReference := by
  refine ⟨?_, ?_⟩
  · rintro ⟨name, -, -, h⟩
    cases h
  · rintro _ _ ⟨n, hn, hclosed, rfl⟩ ⟨m, hm, hclosed', rfl⟩ ⟨rest, h⟩
    -- Both are read from the same text, and reading has one answer.
    have htext : n ++ '\x7d' :: rest = m ++ '\x7d' :: [] := by simpa [spelling] using h
    have hread := readReference_eq_some.mpr ⟨hn, hclosed, htext.symm⟩
    rw [readReference_eq_some.mpr ⟨hm, hclosed', rfl⟩] at hread
    obtain ⟨rfl, -⟩ := Prod.mk.inj (Option.some.inj hread)
    rfl

theorem parts_marked (rest : List Char) :
    parts ('$' :: '\x7b' :: rest) =
      match readReference rest with
      | some (name, after) => .reference name :: parts after
      | none => .plain '$' :: parts ('\x7b' :: rest) := by
  rw [parts]
  split
  · next name after h => rw [h]
  · next h => rw [h]

/-- The parts of a text are its scan for references. -/
theorem scan_parts (s : List Char) : Scan IsReference s ((parts s).map Part.fragment) := by
  induction s using parts.induct with
  | case1 =>
    rw [parts]
    exact .nil
  | case2 rest name after h ih =>
    obtain ⟨hne, hclosed, rfl⟩ := readReference_eq_some.mp h
    have htext : '$' :: '\x7b' :: (name ++ '\x7d' :: after) = spelling name ++ after := by
      simp [spelling]
    rw [parts_marked, h, htext]
    exact .found ⟨name, hne, hclosed, rfl⟩ ih
  | case3 rest h ih =>
    rw [parts_marked, h]
    refine .passed ?_ ih
    rintro w ⟨name, hne, hclosed, rfl⟩ ⟨after, hw⟩
    have hrest : rest = name ++ '\x7d' :: after := by simpa [spelling] using hw.symm
    cases h.symm.trans (readReference_eq_some.mpr ⟨hne, hclosed, hrest⟩)
  | case4 c rest hno ih =>
    rw [parts.eq_3 c rest hno]
    refine .passed ?_ ih
    rintro w ⟨name, -, -, rfl⟩ ⟨after, hw⟩
    obtain ⟨rfl, hrest⟩ := List.cons.inj hw
    exact hno _ rfl hrest.symm

/-- The variable that a part refers to. -/
def Part.name? : Part → Option String
  | plain _ => none
  | reference name => some (String.ofList name)

/-- What becomes of a part: the value of its variable, as it is, or the character that it is. -/
def Part.filledIn (env : List (String × String)) : Part → List Char
  | plain c => [c]
  | reference name => ((env.lookup (String.ofList name)).getD "").toList

/-- The variables that a text refers to, in order. -/
def namesIn (s : String) : List String := (parts s.toList).filterMap Part.name?

/-- A text with the values of its variables. -/
def filledIn (env : List (String × String)) (s : String) : String :=
  String.ofList ((parts s.toList).flatMap (Part.filledIn env))

/-- The variables that a tree refers to in value position, in the order of the document. -/
def references (v : Value) : List String := v.texts.flatMap namesIn

/-- A text without references stays as it is. -/
theorem filledIn_of_no_names (env : List (String × String)) {s : String} (h : namesIn s = []) :
    filledIn env s = s := by
  have hplain : ∀ p ∈ parts s.toList, p.filledIn env = p.fragment.text := by
    intro p hp
    cases p with
    | plain c => rfl
    | reference name =>
      have hmem : String.ofList name ∈ namesIn s := List.mem_filterMap.mpr ⟨_, hp, rfl⟩
      exact absurd (h ▸ hmem) List.not_mem_nil
  have htext := (scan_parts s.toList).text_eq
  rw [List.flatMap_map] at htext
  rw [filledIn, List.flatMap_congr hplain, htext, String.ofList_toList]

/-- Whether a variable is missing in an environment. -/
def isUnset (env : List (String × String)) (name : String) : Bool := (env.lookup name).isNone

/-! ## Resolving them -/

section

variable {env : List (String × String)} {α β : Type}

/-- A result that needs some variables: the first one that is not set is a fault. -/
def needing (env : List (String × String)) (names : List String) (a : α) : Except Fault α :=
  match names.find? (isUnset env) with
  | some name => .error (.value ("Environment variable not set: " ++ name))
  | none => .ok a

theorem needing_bind (names more : List String) (a : α) (f : α → β) :
    (needing env names a >>= fun x => needing env more (f x)) = needing env (names ++ more) (f a) := by
  rw [needing, needing, List.find?_append]
  cases names.find? (isUnset env) <;> rfl

theorem needing_map (names : List String) (a : α) (f : α → β) :
    (needing env names a).map f = needing env names (f a) := by
  rw [needing, needing]
  cases names.find? (isUnset env) <;> rfl

theorem needing_eq_ok {names : List String} {a b : α} :
    needing env names a = .ok b ↔ (∀ name ∈ names, isUnset env name = false) ∧ a = b := by
  rw [needing]
  cases hfind : names.find? (isUnset env) with
  | some name =>
    refine ⟨nofun, fun ⟨hset, _⟩ => ?_⟩
    have hunset : isUnset env name = true := List.find?_some hfind
    cases hunset.symm.trans (hset name (List.mem_of_find?_eq_some hfind))
  | none =>
    have hset : ∀ name ∈ names, isUnset env name = false := by
      simpa using List.find?_eq_none.mp hfind
    exact ⟨fun h => ⟨hset, Except.ok.inj h⟩, fun h => congrArg Except.ok h.2⟩

theorem needing_eq_error {names : List String} {a : α} {f : Fault} :
    needing env names a = .error f ↔ ∃ name, names.find? (isUnset env) = some name ∧
      f = .value ("Environment variable not set: " ++ name) := by
  rw [needing]
  cases names.find? (isUnset env) <;> simp [eq_comm]

theorem exists_needing_error {names : List String} {a : α} :
    (∃ f, needing env names a = .error f) ↔ ∃ name ∈ names, isUnset env name = true := by
  rw [← List.find?_isSome, needing]
  cases names.find? (isUnset env) <;> simp

theorem resolve_eq (p : Part) :
    p.resolve env = needing env p.name?.toList (p.filledIn env) := by
  cases p with
  | plain c => rfl
  | reference name =>
    have hnames : (Part.reference name).name?.toList = [String.ofList name] := rfl
    rw [Part.resolve, Part.filledIn, needing, hnames, List.find?_singleton, isUnset]
    cases env.lookup (String.ofList name) <;> rfl

theorem resolveParts_eq (ps : List Part) :
    resolveParts env ps = needing env (ps.filterMap Part.name?) (ps.flatMap (Part.filledIn env)) := by
  induction ps with
  | nil => rfl
  | cons p more ih =>
    have hnames : (p :: more).filterMap Part.name? =
        p.name?.toList ++ more.filterMap Part.name? := by
      cases p <;> rfl
    rw [resolveParts, resolve_eq, ih, hnames, List.flatMap_cons,
      ← needing_bind _ _ _ fun s => s ++ more.flatMap (Part.filledIn env)]
    refine bind_congr fun s => ?_
    exact needing_map _ _ (s ++ ·)

theorem resolveText_eq (s : String) :
    resolveText env s = needing env (namesIn s) (filledIn env s) := by
  rw [resolveText, resolveParts_eq, needing_map]
  rfl

mutual

/-- To resolve a tree is to fill in its texts, which needs all variables that it refers to. -/
theorem resolveValue_eq : ∀ v : Value,
    resolveValue env v = needing env (references v) (v.mapTexts (filledIn env))
  | .str s | .markup s => by
    have hnames : [s].flatMap namesIn = namesIn s := List.flatMap_singleton namesIn s
    show (resolveText env s).map Value.str = needing env ([s].flatMap namesIn) (.str (filledIn env s))
    rw [resolveText_eq, needing_map, hnames]
  | .list items => by
    show (resolveItems env items).map Value.list = _
    rw [resolveItems_eq, needing_map]
    rfl
  | .dict entries => by
    show (resolveEntries env entries).map Value.dict = _
    rw [resolveEntries_eq, needing_map]
    rfl
  | .null | .bool _ | .int _ | .float _ | .tuple _ | .day _ | .moment _ | .function _
  | .method .. | .view .. | .loop .. | .slice .. | .absent _ => rfl

theorem resolveItems_eq : ∀ items : List Value,
    resolveItems env items =
      needing env (((Value.leavesOfItems items).filterMap Value.text?).flatMap namesIn)
        (Value.mapTextsOfItems (filledIn env) items)
  | [] => rfl
  | v :: more => by
    rw [Value.leavesOfItems, List.filterMap_append, List.flatMap_append, Value.mapTextsOfItems,
      resolveItems, resolveValue_eq v, resolveItems_eq more,
      ← needing_bind _ _ _ fun w => w :: Value.mapTextsOfItems (filledIn env) more]
    refine bind_congr fun w => ?_
    exact needing_map _ _ (w :: ·)

theorem resolveEntries_eq : ∀ entries : List (Value × Value),
    resolveEntries env entries =
      needing env (((Value.leavesOfEntries entries).filterMap Value.text?).flatMap namesIn)
        (Value.mapTextsOfEntries (filledIn env) entries)
  | [] => rfl
  | (k, v) :: more => by
    rw [Value.leavesOfEntries, List.filterMap_append, List.flatMap_append, Value.mapTextsOfEntries,
      resolveEntries, resolveValue_eq v, resolveEntries_eq more,
      ← needing_bind _ _ _ fun w => (k, w) :: Value.mapTextsOfEntries (filledIn env) more]
    refine bind_congr fun w => ?_
    exact needing_map _ _ ((k, w) :: ·)

end

end

/-- What it comes to to resolve a tree of values. The parts of a text are its one scan from the left
for references. Resolving fails exactly if some text in value position refers to a variable that is
not set, and the fault names the first such variable in the order of the document. Otherwise every
text in value position has its references replaced by the values, which are not looked at again, and
everything else is as it was. A tree without references, unless it holds markup, comes out as it is. -/
theorem resolveValue_in_document_order (env : List (String × String)) (v : Value) :
    (∀ s fs, Scan IsReference s fs ↔ fs = (parts s).map Part.fragment) ∧
    ((∃ f, resolveValue env v = .error f) ↔
      ∃ s ∈ v.texts, ∃ name ∈ namesIn s, isUnset env name = true) ∧
    (∀ f, resolveValue env v = .error f ↔ ∃ name, (references v).find? (isUnset env) = some name ∧
      f = .value ("Environment variable not set: " ++ name)) ∧
    (∀ w, resolveValue env v = .ok w ↔
      (∀ s ∈ v.texts, ∀ name ∈ namesIn s, isUnset env name = false) ∧
        v.mapTexts (filledIn env) = w) ∧
    ((∀ s ∈ v.texts, namesIn s = []) → (∀ l ∈ v.leaves, l.isMarkup = false) →
      resolveValue env v = .ok v) := by
  have hnames : ∀ {p : String → Prop},
      (∀ name ∈ references v, p name) ↔ ∀ s ∈ v.texts, ∀ name ∈ namesIn s, p name := by
    simp only [references, List.forall_mem_flatMap, implies_true]
  rw [resolveValue_eq]
  refine ⟨fun s fs => ⟨fun h => ?_, fun h => h ▸ scan_parts s⟩, ?_, fun f => needing_eq_error,
    fun w => ?_, fun hnone hunmarked => ?_⟩
  · exact h.unique prefixFree_isReference (scan_parts s)
  · rw [exists_needing_error]
    simp only [references, List.mem_flatMap]
    constructor
    · rintro ⟨name, ⟨s, hs, hname⟩, hunset⟩
      exact ⟨s, hs, name, hname, hunset⟩
    · rintro ⟨s, hs, name, hname, hunset⟩
      exact ⟨name, ⟨s, hs, hname⟩, hunset⟩
  · rw [needing_eq_ok, hnames]
  · rw [needing_eq_ok, hnames]
    refine ⟨fun s hs name hname => absurd (hnone s hs ▸ hname) List.not_mem_nil, ?_⟩
    exact (Value.mapTexts_congr fun s hs => filledIn_of_no_names env (hnone s hs)).trans
      (Value.mapTexts_id hunmarked)

/-- A reference ends at the first closing brace, marks around nothing are no reference, values are
not looked at again, and keys are left alone. -/
theorem resolveValue_of_marks :
    let env := [("ROOT", "/srv/$\x7bAPP\x7d"), ("a$\x7bB", "b")]
    let key : Value := .str "$\x7bROOT\x7d"
    resolveValue env (.dict [(key, .list [.str "$\x7bROOT\x7d/$\x7ba$\x7bB\x7d$\x7b\x7d", .int 1])]) =
      .ok (.dict [(key, .list [.str "/srv/$\x7bAPP\x7d/b$\x7b\x7d", .int 1])]) := by
  intro env key
  let text := "$\x7bROOT\x7d/$\x7ba$\x7bB\x7d$\x7b\x7d"
  have hparts : parts text.toList =
      [.reference "ROOT".toList, .plain '/', .reference "a$\x7bB".toList, .plain '$', .plain '\x7b',
        .plain '\x7d'] := by
    simp [text, parts_marked, parts, readReference]
  have hfilled : filledIn env text = "/srv/$\x7bAPP\x7d/b$\x7b\x7d" := by
    rw [filledIn, hparts]
    decide +kernel
  refine ((resolveValue_in_document_order env _).2.2.2.1 _).mpr ⟨fun s hs name hname => ?_, ?_⟩
  · obtain rfl : s = text := List.mem_singleton.mp hs
    rw [namesIn, hparts] at hname
    revert name
    decide
  · rw [Value.mapTexts_dict]
    show Value.dict [(key, (Value.list [.str text, .int 1]).mapTexts (filledIn env))] = _
    rw [Value.mapTexts_list]
    show Value.dict [(key, .list [.str (filledIn env text), .int 1])] = _
    rw [hfilled]

end Config
end DeferredViews
