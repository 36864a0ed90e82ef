import DeferredViews.Log.Format
import DeferredViews.Proofs.WrittenNumbers

/-!
# Written values are read back

A text is written with escapes and read back as it was, whatever its characters are: quotes,
backslashes and controls come from their escapes, and a character beyond the basic plane from the
two halves of its surrogate pair. By induction over the value the same holds of all of JSON. What
is written is printable ASCII, for other values too.
-/
namespace DeferredViews.Json

open Text Number

/-! ## Code units -/

theorem hexValue_hexDigit {n : ℕ} (h : n < 16) : hexValue (hexDigit n) = n := by
  revert n
  decide +kernel

theorem isHexDigit_hexDigit {n : ℕ} (h : n < 16) : isHexDigit (hexDigit n) = true := by
  revert n
  decide +kernel

theorem toHex_four {n : ℕ} (h : n < 0x10000) :
    toHex 4 n = [hexDigit (n / 16 / 16 / 16 % 16), hexDigit (n / 16 / 16 % 16),
      hexDigit (n / 16 % 16), hexDigit (n % 16)] := by
  have htop : n / 16 / 16 / 16 / 16 = 0 := by omega
  simp only [toHex, toHex.go, htop, ↓reduceIte]

theorem readUnit_toHex {n : ℕ} (h : n < 0x10000) (rest : List Char) :
    readUnit (toHex 4 n ++ rest) = some (n, rest) := by
  have hdigit (m : ℕ) : m % 16 < 16 := Nat.mod_lt m (by omega)
  simp only [toHex_four h, List.cons_append, List.nil_append, readUnit, List.all_cons,
    List.all_nil, isHexDigit_hexDigit (hdigit _), Bool.and_self, ↓reduceIte, readDigits,
    List.foldl_cons, List.foldl_nil, hexValue_hexDigit (hdigit _)]
  congr 2
  omega

/-- A code unit outside the surrogates is a character of its own. -/
theorem readEscapedUnit_single {c : Char} (h : c.toNat < 0x10000) (rest : List Char) :
    readEscapedUnit (toHex 4 c.toNat ++ rest) = some (c, rest) := by
  have hvalid : c.toNat < 0xd800 ∨ 0xdfff < c.toNat := c.valid.imp id And.left
  have hhigh : ¬(0xd800 ≤ c.toNat ∧ c.toNat < 0xdc00) := by omega
  have hlow : ¬(0xdc00 ≤ c.toNat ∧ c.toNat < 0xe000) := by omega
  simp [readEscapedUnit, readUnit_toHex h, hhigh, hlow]

theorem toNat_lt_of_valid (c : Char) : c.toNat < 0x110000 := by
  rcases c.valid with hc | hc
  · exact hc.trans (by decide)
  · exact hc.2

/-- A character beyond the basic plane is put together from its two halves. -/
theorem readEscapedUnit_pair {c : Char} (h : 0x10000 ≤ c.toNat) (rest : List Char) :
    readEscapedUnit (toHex 4 (0xd800 + (c.toNat - 0x10000) / 0x400) ++
      (unitEscape (0xdc00 + (c.toNat - 0x10000) % 0x400) ++ rest)) = some (c, rest) := by
  have hlast := toNat_lt_of_valid c
  obtain ⟨high, hhigh⟩ : ∃ high, high = 0xd800 + (c.toNat - 0x10000) / 0x400 := ⟨_, rfl⟩
  obtain ⟨low, hlow⟩ : ∃ low, low = 0xdc00 + (c.toNat - 0x10000) % 0x400 := ⟨_, rfl⟩
  have hfirst : 0xd800 ≤ high ∧ high < 0xdc00 := by omega
  have hsecond : 0xdc00 ≤ low ∧ low < 0xe000 := by omega
  have hjoined : 0x10000 + (high - 0xd800) * 0x400 + (low - 0xdc00) = c.toNat := by omega
  rw [← hhigh, ← hlow]
  simp [readEscapedUnit, unitEscape, readUnit_toHex (n := high) (by omega),
    readUnit_toHex (n := low) (by omega), hfirst, hsecond, hjoined]

/-! ## Texts -/

/-- One character more in front of a text that has been read. -/
def consRead (c : Char) (read : Option (List Char × List Char)) :
    Option (List Char × List Char) :=
  read.map fun (t, rest) => (c :: t, rest)

theorem readQuoted_escape {e c : Char} (h : simpleEscape e = some c) (fuel : ℕ) (s : List Char) :
    readQuoted (fuel + 1) ('\\' :: e :: s) = consRead c (readQuoted fuel s) := by
  have hunit : e ≠ 'u' := by
    rintro rfl
    cases h
  cases hs : readQuoted fuel s <;> simp [readQuoted, h, hs, consRead]

theorem readQuoted_unit {s after : List Char} {c : Char}
    (h : readEscapedUnit s = some (c, after)) (fuel : ℕ) :
    readQuoted (fuel + 1) ('\\' :: 'u' :: s) = consRead c (readQuoted fuel after) := by
  cases hs : readQuoted fuel after <;> simp [readQuoted, h, hs, consRead]

theorem readQuoted_plain {c : Char} (hquote : c ≠ '"') (hescape : c ≠ '\\') (fuel : ℕ)
    (s : List Char) : readQuoted (fuel + 1) (c :: s) = consRead c (readQuoted fuel s) := by
  rw [readQuoted]
  · cases hs : readQuoted fuel s <;> simp [consRead]
  all_goals simp_all

/-- A character is read back from its escape. -/
theorem readQuoted_writeChar (c : Char) (fuel : ℕ) (s : List Char) :
    readQuoted (fuel + 1) (writeChar c ++ s) = consRead c (readQuoted fuel s) := by
  simp only [writeChar]
  split_ifs with hquote hn hr ht hb hf hplain hunit
  · rcases hquote with rfl | rfl <;> exact readQuoted_escape rfl fuel s
  · exact readQuoted_escape (by simp [simpleEscape, hn]) fuel s
  · exact readQuoted_escape (by simp [simpleEscape, hr]) fuel s
  · exact readQuoted_escape (by simp [simpleEscape, ht]) fuel s
  · exact readQuoted_escape (by simp [simpleEscape, hb]) fuel s
  · exact readQuoted_escape (by simp [simpleEscape, hf]) fuel s
  · exact readQuoted_plain (fun h => hquote (.inl h)) (fun h => hquote (.inr h)) fuel s
  · rw [unitEscape, List.cons_append, List.cons_append]
    exact readQuoted_unit (readEscapedUnit_single hunit s) fuel
  · rw [List.append_assoc, unitEscape, List.cons_append, List.cons_append]
    exact readQuoted_unit (readEscapedUnit_pair (Nat.le_of_not_lt hunit) s) fuel

theorem writeChar_ne_nil (c : Char) : writeChar c ≠ [] := by
  simp only [writeChar]
  split_ifs <;> exact List.cons_ne_nil _ _

/-- A quoted text is read back. -/
theorem readQuoted_text (s rest : List Char) {fuel : ℕ} (h : s.length < fuel) :
    readQuoted fuel (s.flatMap writeChar ++ '"' :: rest) = some (s, rest) := by
  induction s generalizing fuel with
  | nil =>
    obtain ⟨fuel, rfl⟩ : ∃ n, fuel = n + 1 := ⟨fuel - 1, by simp at h; omega⟩
    simp [readQuoted]
  | cons c s ih =>
    obtain ⟨fuel, rfl⟩ : ∃ n, fuel = n + 1 := ⟨fuel - 1, by simp at h; omega⟩
    rw [List.flatMap_cons, List.append_assoc, readQuoted_writeChar, ih (by simpa using h)]
    rfl

/-- The text between its quotes is no longer than what is written. -/
theorem length_le_written (s : List Char) : s.length ≤ (s.flatMap writeChar).length := by
  induction s with
  | nil => simp
  | cons c s ih =>
    have hc := List.length_pos_of_ne_nil (writeChar_ne_nil c)
    simp only [List.length_cons, List.flatMap_cons, List.length_append]
    omega

/-- Behind its opening quote a text has fuel enough. -/
theorem readQuoted_written (s rest : List Char) :
    readQuoted ((s.flatMap writeChar ++ '"' :: rest).length + 1)
      (s.flatMap writeChar ++ '"' :: rest) = some (s, rest) := by
  have hlength := length_le_written s
  exact readQuoted_text s rest (by simp only [List.length_append]; omega)

/-! ## Values -/

/-- The values that JSON knows: numbers are finite, and the keys of an object are pairwise
different texts. -/
inductive IsJson : Value → Prop where
  | null : IsJson .null
  | bool (b : Bool) : IsJson (.bool b)
  | int (n : ℤ) : IsJson (.int n)
  | float {x : Double} (finite : x.isFinite = true) : IsJson (.float x)
  | str (s : String) : IsJson (.str s)
  | list {items : List Value} (each : ∀ v ∈ items, IsJson v) : IsJson (.list items)
  | object {fields : Locals} (distinct : (fields.map (·.1)).Nodup)
      (each : ∀ f ∈ fields, IsJson f.2) : IsJson (Log.objectOf fields)

theorem exists_shape {x : Double} (h : x.isFinite = true) :
    ∃ negative m e, x.shape = .finite negative m e := by
  unfold Double.isFinite at h
  split at h
  · exact ⟨_, _, _, ‹_›⟩
  · cases h

theorem denotes_float {x : Double} (h : x.isFinite = true) :
    Denotes (writeDouble x) (.float x) := by
  obtain ⟨negative, m, e, hx⟩ := exists_shape h
  simpa [writeDouble, hx] using denotes_double hx

/-- A text in which nothing is skipped, and that does not close a list. -/
def StartsValue (s : List Char) : Prop := ∃ c t, s = c :: t ∧ isSpace c = false ∧ c ≠ ']'

theorem isSpace_of_isAsciiDigit {c : Char} (h : isAsciiDigit c = true) : isSpace c = false := by
  rw [isSpace]
  simp only [Bool.or_eq_false_iff, decide_eq_false_iff_not]
  refine ⟨⟨⟨?_, ?_⟩, ?_⟩, ?_⟩ <;> (rintro rfl; simp [isAsciiDigit] at h)

theorem Denotes.startsValue {s : List Char} {v : Value} (h : Denotes s v) : StartsValue s := by
  obtain ⟨c, t, rfl, rfl | hc⟩ := h.head
  · exact ⟨'-', t, rfl, rfl, by decide⟩
  · refine ⟨c, t, rfl, isSpace_of_isAsciiDigit hc, ?_⟩
    rintro rfl
    simp [isAsciiDigit] at hc

theorem IsJson.startsValue {v : Value} (h : IsJson v) : StartsValue (writeValue v) := by
  cases h with
  | null => exact ⟨'n', _, rfl, rfl, by simp⟩
  | bool b => cases b with
    | true => exact ⟨'t', _, rfl, rfl, by simp⟩
    | false => exact ⟨'f', _, rfl, rfl, by simp⟩
  | int n => exact (denotes_int n).startsValue
  | float finite => exact (denotes_float finite).startsValue
  | str s => exact ⟨'"', _, rfl, rfl, by simp⟩
  | list each => exact ⟨'[', _, rfl, rfl, by simp⟩
  | object distinct each => exact ⟨'\x7b', _, rfl, rfl, by simp⟩

@[simp] theorem skipSpace_space (s : List Char) : skipSpace (' ' :: s) = skipSpace s := rfl

@[simp] theorem skipSpace_cons {c : Char} (h : isSpace c = false) (s : List Char) :
    skipSpace (c :: s) = c :: s := by
  simp [skipSpace, h]

@[simp] theorem skipSpace_writeText (s rest : List Char) :
    skipSpace (writeText s ++ rest) = '"' :: (s.flatMap writeChar ++ '"' :: rest) := by
  simp [writeText, isSpace]

theorem readValue_space (fuel : ℕ) (s : List Char) :
    readValue fuel (' ' :: s) = readValue fuel s := by
  cases fuel <;> simp [readValue]

theorem readItems_space (fuel : ℕ) (s : List Char) :
    readItems fuel (' ' :: s) = readItems fuel s := by
  cases fuel <;> simp [readItems, readValue_space]

theorem readEntries_space (fuel : ℕ) (s : List Char) :
    readEntries fuel (' ' :: s) = readEntries fuel s := by
  cases fuel <;> simp [readEntries]

/-- A number is what neither a quote, a bracket nor a letter starts. -/
theorem readValue_number {s : List Char} {v : Value} (h : Denotes s v) (fuel : ℕ)
    {rest : List Char} (hrest : EndsNumber rest) :
    readValue (fuel + 1) (s ++ rest) = some (v, rest) := by
  have hread := h.readNumber_append hrest
  obtain ⟨d, u, hd, hspace, -⟩ := h.startsValue
  obtain ⟨c, t, rfl, hc⟩ := h.head
  obtain ⟨rfl, rfl⟩ := List.cons.inj hd
  rw [List.cons_append] at hread ⊢
  rw [readValue, skipSpace_cons hspace, ← hread]
  split <;> simp_all [isAsciiDigit]

theorem readValue_text (s : List Char) (fuel : ℕ) (rest : List Char) :
    readValue (fuel + 1) (writeText s ++ rest) = some (.str (String.ofList s), rest) := by
  simp only [readValue, skipSpace_writeText, readQuoted_written, Option.map_some]

/-- A value is read back from what is written for it, with fuel for its length. -/
def Reads (v : Value) : Prop :=
  ∀ (fuel : ℕ) (rest : List Char), (writeValue v).length < fuel → EndsNumber rest →
    readValue fuel (writeValue v ++ rest) = some (v, rest)

theorem endsNumber_cons {c : Char} (h : isNumberChar c = false) (hupper : c ≠ 'E')
    (rest : List Char) : EndsNumber (c :: rest) := by
  rintro d ⟨⟩
  simp_all [isNumberChar]

/-- The items of a list between its brackets. -/
def itemsText (items : List Value) : List Char := joinWith [',', ' '] (writeItems items)

theorem itemsText_singleton (v : Value) : itemsText [v] = writeValue v := by
  simp [itemsText, writeItems, joinWith]

theorem itemsText_cons (v w : Value) (more : List Value) :
    itemsText (v :: w :: more) = writeValue v ++ ',' :: ' ' :: itemsText (w :: more) := by
  simp [itemsText, writeItems, joinWith]

theorem readItems_next {fuel : ℕ} {s rest : List Char} {v : Value}
    (h : readValue fuel s = some (v, ',' :: rest)) :
    readItems (fuel + 1) s = (readItems fuel rest).map fun (vs, r) => (v :: vs, r) := by
  cases hmore : readItems fuel rest <;> simp [readItems, h, isSpace, hmore]

theorem readItems_last {fuel : ℕ} {s rest : List Char} {v : Value}
    (h : readValue fuel s = some (v, ']' :: rest)) :
    readItems (fuel + 1) s = some ([v], rest) := by
  simp [readItems, h, isSpace]

theorem readItems_itemsText {items : List Value} (each : ∀ v ∈ items, Reads v)
    (hne : items ≠ []) (rest : List Char) {fuel : ℕ} (hfuel : (itemsText items).length + 1 < fuel) :
    readItems fuel (itemsText items ++ ']' :: rest) = some (items, rest) := by
  induction items generalizing fuel with
  | nil => exact absurd rfl hne
  | cons v items ih =>
    obtain ⟨fuel, rfl⟩ : ∃ n, fuel = n + 1 := ⟨fuel - 1, by omega⟩
    have hv := each v (by simp)
    cases items with
    | nil =>
      rw [itemsText_singleton] at hfuel ⊢
      exact readItems_last (hv fuel _ (by omega) (endsNumber_cons rfl (by decide) rest))
    | cons w more =>
      rw [itemsText_cons] at hfuel ⊢
      simp only [List.length_append, List.length_cons] at hfuel
      have hmore := ih (fun u hu => each u (List.mem_cons_of_mem v hu)) (by simp)
        (show (itemsText (w :: more)).length + 1 < fuel by omega)
      rw [List.append_assoc, List.cons_append, List.cons_append, readItems_next (hv fuel _
        (by omega) (endsNumber_cons rfl (by decide) _)), readItems_space, hmore]
      rfl

/-- An entry of an object. -/
def entryText (k : String) (v : Value) : List Char :=
  writeText k.toList ++ ':' :: ' ' :: writeValue v

/-- The entries of an object between its braces. -/
def fieldsText (fields : Locals) : List Char :=
  joinWith [',', ' '] (fields.map fun (k, v) => entryText k v)

theorem fieldsText_singleton (k : String) (v : Value) : fieldsText [(k, v)] = entryText k v := by
  simp [fieldsText, joinWith]

theorem fieldsText_cons (k : String) (v : Value) (f : String × Value) (more : Locals) :
    fieldsText ((k, v) :: f :: more) = entryText k v ++ ',' :: ' ' :: fieldsText (f :: more) := by
  simp [fieldsText, joinWith]

/-- The entries of an object start with the quote of the first key. -/
theorem exists_fieldsText (f : String × Value) (more : Locals) :
    ∃ t, fieldsText (f :: more) = '"' :: t := by
  cases more with
  | nil => exact ⟨_, fieldsText_singleton f.1 f.2⟩
  | cons g more => exact ⟨_, fieldsText_cons f.1 f.2 g more⟩

theorem writeEntries_fields (fields : Locals) :
    writeEntries (fields.map fun (k, v) => (.str k, v)) =
      fields.map fun (k, v) => entryText k v := by
  induction fields with
  | nil => simp [writeEntries]
  | cons f fields ih => simp [writeEntries, entryText, keyText, ih]

theorem readEntries_next {fuel : ℕ} {k : String} {s rest : List Char} {v : Value}
    (h : readValue fuel s = some (v, ',' :: rest)) :
    readEntries (fuel + 1) (writeText k.toList ++ ':' :: s) =
      (readEntries fuel rest).map fun (es, r) => ((.str k, v) :: es, r) := by
  simp only [readEntries, skipSpace_writeText, readQuoted_written]
  cases hmore : readEntries fuel rest <;> simp [h, isSpace, hmore]

theorem readEntries_last {fuel : ℕ} {k : String} {s rest : List Char} {v : Value}
    (h : readValue fuel s = some (v, '\x7d' :: rest)) :
    readEntries (fuel + 1) (writeText k.toList ++ ':' :: s) = some ([(.str k, v)], rest) := by
  simp only [readEntries, skipSpace_writeText, readQuoted_written]
  simp [h, isSpace]

theorem readEntries_fieldsText {fields : Locals} (each : ∀ f ∈ fields, Reads f.2)
    (hne : fields ≠ []) (rest : List Char) {fuel : ℕ}
    (hfuel : (fieldsText fields).length + 1 < fuel) :
    readEntries fuel (fieldsText fields ++ '\x7d' :: rest) =
      some (fields.map fun (k, v) => (.str k, v), rest) := by
  induction fields generalizing fuel with
  | nil => exact absurd rfl hne
  | cons f fields ih =>
    obtain ⟨fuel, rfl⟩ : ∃ n, fuel = n + 1 := ⟨fuel - 1, by omega⟩
    obtain ⟨k, v⟩ := f
    have hv : Reads v := each (k, v) (by simp)
    cases fields with
    | nil =>
      rw [fieldsText_singleton] at hfuel ⊢
      simp only [entryText, List.length_append, List.length_cons] at hfuel
      rw [entryText, List.append_assoc, List.cons_append, List.cons_append,
        readEntries_last ((readValue_space fuel _).trans (hv fuel _ (by omega)
          (endsNumber_cons rfl (by decide) rest)))]
      rfl
    | cons g more =>
      rw [fieldsText_cons] at hfuel ⊢
      simp only [entryText, List.length_append, List.length_cons] at hfuel
      have hmore := ih (fun u hu => each u (List.mem_cons_of_mem _ hu)) (by simp)
        (show (fieldsText (g :: more)).length + 1 < fuel by omega)
      rw [entryText, List.append_assoc, List.append_assoc, List.cons_append, List.cons_append,
        List.cons_append, List.cons_append,
        readEntries_next ((readValue_space fuel _).trans (hv fuel _ (by omega)
          (endsNumber_cons rfl (by decide) _))), readEntries_space, hmore]
      rfl

theorem insert_new {fields : Locals} {k : String} (h : k ∉ fields.map (·.1)) (v : Value) :
    Value.insert (.str k) v (fields.map fun (k, v) => (.str k, v)) =
      (fields ++ [(k, v)]).map fun (k, v) => (.str k, v) := by
  induction fields with
  | nil => simp [Value.insert]
  | cons f fields ih =>
    obtain ⟨hne, hnew⟩ : k ≠ f.1 ∧ k ∉ fields.map (·.1) := by simpa using h
    simp [Value.insert, Value.equals, Value.text?, hne.symm, ih hnew]

/-- New entries are added behind those that have been inserted already. -/
theorem foldl_insert_new (more done : Locals) (distinct : ((done ++ more).map (·.1)).Nodup) :
    (more.map fun (k, v) => (.str k, v)).foldl (fun d (k, v) => Value.insert k v d)
        (done.map fun (k, v) => (.str k, v)) =
      (done ++ more).map fun (k, v) => (.str k, v) := by
  induction more generalizing done with
  | nil => simp
  | cons f more ih =>
    have hnew : f.1 ∉ done.map (·.1) := by
      simp only [List.map_append, List.map_cons, List.nodup_append, List.mem_cons] at distinct
      exact fun hf => distinct.2.2 f.1 hf f.1 (.inl rfl) rfl
    simp only [List.map_cons, List.foldl_cons, insert_new hnew]
    rw [ih (done ++ [f]) (by simpa using distinct)]
    simp

/-- Entries with pairwise different texts as keys are kept in their order. -/
theorem ofEntries_fields {fields : Locals} (distinct : (fields.map (·.1)).Nodup) :
    Value.ofEntries (fields.map fun (k, v) => (.str k, v)) = Log.objectOf fields :=
  congrArg Value.dict (foldl_insert_new fields [] distinct)

theorem readWord_append (word : String) (v : Value) (rest : List Char) :
    readWord word v (word.toList ++ rest) = some (v, rest) := by
  simp [readWord, dropPattern?_eq_some.mpr rfl]

theorem reads_of_succ {v : Value} (h : ∀ (fuel : ℕ) (rest : List Char),
    (writeValue v).length ≤ fuel → EndsNumber rest →
      readValue (fuel + 1) (writeValue v ++ rest) = some (v, rest)) : Reads v := by
  intro fuel rest hfuel hrest
  cases fuel with
  | zero => omega
  | succ fuel => exact h fuel rest (by omega) hrest

theorem StartsValue.append {s : List Char} (h : StartsValue s) (t : List Char) :
    StartsValue (s ++ t) := by
  obtain ⟨c, u, rfl, hspace, hclose⟩ := h
  exact ⟨c, u ++ t, rfl, hspace, hclose⟩

theorem startsValue_itemsText {v : Value} (h : StartsValue (writeValue v)) (more : List Value) :
    StartsValue (itemsText (v :: more)) := by
  cases more with
  | nil => rwa [itemsText_singleton]
  | cons w more =>
    rw [itemsText_cons]
    exact h.append _

theorem readValue_items {s : List Char} (h : StartsValue s) (fuel : ℕ) :
    readValue (fuel + 1) ('[' :: s) = (readItems fuel s).map fun (vs, r) => (.list vs, r) := by
  obtain ⟨c, t, rfl, hspace, hclose⟩ := h
  have hopen : skipSpace ('[' :: c :: t) = '[' :: c :: t := skipSpace_cons rfl _
  have hskip : skipSpace (c :: t) = c :: t := skipSpace_cons hspace t
  simp [readValue, hopen, hskip, hclose]

theorem reads_list {items : List Value} (start : ∀ v ∈ items, StartsValue (writeValue v))
    (each : ∀ v ∈ items, Reads v) : Reads (.list items) := by
  apply reads_of_succ
  intro fuel rest hfuel hrest
  cases items with
  | nil => simp [writeValue, writeItems, joinWith, readValue, isSpace]
  | cons v more =>
    have hstart := startsValue_itemsText (start v (by simp)) more
    have hlength : (itemsText (v :: more)).length + 1 < fuel := by
      simp [writeValue, itemsText] at hfuel ⊢
      omega
    have hwritten : writeValue (.list (v :: more)) ++ rest =
        '[' :: (itemsText (v :: more) ++ ']' :: rest) := by
      simp [writeValue, itemsText]
    rw [hwritten, readValue_items (hstart.append _),
      readItems_itemsText each (by simp) rest hlength]
    rfl

theorem readValue_entries (s : List Char) (fuel : ℕ) :
    readValue (fuel + 1) ('\x7b' :: '"' :: s) =
      (readEntries fuel ('"' :: s)).map fun (es, r) => (Value.ofEntries es, r) := by
  simp [readValue, isSpace]

theorem reads_object {fields : Locals} (distinct : (fields.map (·.1)).Nodup)
    (each : ∀ f ∈ fields, Reads f.2) : Reads (Log.objectOf fields) := by
  apply reads_of_succ
  intro fuel rest hfuel hrest
  cases fields with
  | nil => simp [Log.objectOf, writeValue, writeEntries, joinWith, readValue, isSpace]
  | cons f more =>
    have hwritten : writeValue (Log.objectOf (f :: more)) =
        '\x7b' :: fieldsText (f :: more) ++ ['\x7d'] := by
      rw [Log.objectOf, writeValue, writeEntries_fields, fieldsText]
    rw [hwritten] at hfuel ⊢
    have hread := readEntries_fieldsText each (by simp) rest
      (show (fieldsText (f :: more)).length + 1 < fuel by
        simp only [List.length_append, List.length_cons, List.length_nil] at hfuel
        omega)
    obtain ⟨t, ht⟩ := exists_fieldsText f more
    rw [ht] at hread ⊢
    have hquote : '\x7b' :: '"' :: t ++ ['\x7d'] ++ rest =
        '\x7b' :: '"' :: (t ++ '\x7d' :: rest) := by
      simp
    rw [List.cons_append] at hread
    rw [hquote, readValue_entries, hread]
    simp only [Option.map_some, ofEntries_fields distinct]

/-- A JSON value is read back from what is written for it. -/
theorem IsJson.reads {v : Value} (h : IsJson v) : Reads v := by
  induction h with
  | null =>
    apply reads_of_succ
    intro fuel rest _ _
    exact readWord_append "null" .null rest
  | bool b =>
    apply reads_of_succ
    intro fuel rest _ _
    cases b with
    | true => exact readWord_append "true" (.bool true) rest
    | false => exact readWord_append "false" (.bool false) rest
  | int n =>
    apply reads_of_succ
    intro fuel rest _ hrest
    exact readValue_number (denotes_int n) fuel hrest
  | float finite =>
    apply reads_of_succ
    intro fuel rest _ hrest
    exact readValue_number (denotes_float finite) fuel hrest
  | str s =>
    apply reads_of_succ
    intro fuel rest _ _
    simp [writeValue, readValue_text]
  | list each ih => exact reads_list (fun v hv => (each v hv).startsValue) ih
  | object distinct each ih => exact reads_object distinct ih

/-- The whole text of a JSON value is read as the value. -/
theorem read?_write {v : Value} (h : IsJson v) : read? (write v) = some v := by
  have hread := h.reads ((writeValue v).length + 1) [] (by omega) (by simp [EndsNumber])
  rw [List.append_nil] at hread
  simp [read?, write, hread, skipSpace]

/-! ## Printable ASCII -/

def isPrintableAscii (c : Char) : Bool := 0x20 ≤ c.toNat && c.toNat < 0x7f

/-- A text of printable ASCII characters only. -/
def IsAsciiLine (s : List Char) : Prop := ∀ c ∈ s, isPrintableAscii c = true

namespace IsAsciiLine

theorem nil : IsAsciiLine [] := by simp [IsAsciiLine]

theorem cons_iff {c : Char} {s : List Char} :
    IsAsciiLine (c :: s) ↔ isPrintableAscii c = true ∧ IsAsciiLine s := by
  simp [IsAsciiLine]

theorem append_iff {s t : List Char} : IsAsciiLine (s ++ t) ↔ IsAsciiLine s ∧ IsAsciiLine t := by
  simp [IsAsciiLine, or_imp, forall_and]

theorem flatMap {α : Type} {f : α → List Char} (h : ∀ a, IsAsciiLine (f a)) (l : List α) :
    IsAsciiLine (l.flatMap f) := by
  intro c hc
  obtain ⟨a, -, ha⟩ := List.mem_flatMap.mp hc
  exact h a c ha

theorem joinWith {sep : List Char} (hsep : IsAsciiLine sep) :
    ∀ {pieces : List (List Char)}, (∀ p ∈ pieces, IsAsciiLine p) →
      IsAsciiLine (Text.joinWith sep pieces)
  | [], _ => nil
  | [p], h => h p (by simp)
  | p :: q :: more, h => by
    rw [Text.joinWith, append_iff, append_iff]
    exact ⟨⟨h p (by simp), hsep⟩, joinWith hsep fun r hr => h r (List.mem_cons_of_mem p hr)⟩

end IsAsciiLine

theorem isPrintableAscii_hexDigit {n : ℕ} (h : n < 16) : isPrintableAscii (hexDigit n) = true := by
  revert n
  decide +kernel

theorem isAsciiLine_unitEscape {n : ℕ} (h : n < 0x10000) : IsAsciiLine (unitEscape n) := by
  have hdigit (m : ℕ) : isPrintableAscii (hexDigit (m % 16)) = true :=
    isPrintableAscii_hexDigit (Nat.mod_lt m (by omega))
  rw [unitEscape, toHex_four h]
  simp only [IsAsciiLine.cons_iff, hdigit]
  exact ⟨rfl, rfl, trivial, trivial, trivial, trivial, IsAsciiLine.nil⟩

theorem isAsciiLine_writeChar (c : Char) : IsAsciiLine (writeChar c) := by
  have hlast := toNat_lt_of_valid c
  simp only [writeChar]
  split_ifs with hquote hn hr ht hb hf hplain hunit
  · rcases hquote with rfl | rfl <;> simp [IsAsciiLine, isPrintableAscii]
  iterate 5 simp [IsAsciiLine, isPrintableAscii]
  · simpa [IsAsciiLine, isPrintableAscii] using hplain
  · exact isAsciiLine_unitEscape hunit
  · exact IsAsciiLine.append_iff.mpr
      ⟨isAsciiLine_unitEscape (by omega), isAsciiLine_unitEscape (by omega)⟩

theorem isAsciiLine_writeText (s : List Char) : IsAsciiLine (writeText s) := by
  have hchars := IsAsciiLine.flatMap isAsciiLine_writeChar s
  simp [writeText, IsAsciiLine.cons_iff, IsAsciiLine.append_iff, hchars, IsAsciiLine.nil]
  decide

theorem isPrintableAscii_of_isNumberChar {c : Char} (h : isNumberChar c = true) :
    isPrintableAscii c = true := by
  simp only [isNumberChar, Bool.or_eq_true, decide_eq_true_eq, List.mem_cons, List.not_mem_nil,
    or_false] at h
  rcases h with h | rfl | rfl | rfl | rfl
  · obtain ⟨hlow, hhigh⟩ : '0'.toNat ≤ c.toNat ∧ c.toNat ≤ '9'.toNat := by
      simpa [isAsciiDigit, Char.le_def, UInt32.le_iff_toNat_le] using h
    simp only [Char.reduceToNat] at hlow hhigh
    simp only [isPrintableAscii, Bool.and_eq_true, decide_eq_true_eq]
    omega
  all_goals rfl

theorem Denotes.isAsciiLine {s : List Char} {v : Value} (h : Denotes s v) : IsAsciiLine s :=
  fun c hc => isPrintableAscii_of_isNumberChar (h.chars c hc)

theorem isAsciiLine_writeDouble (x : Double) : IsAsciiLine (writeDouble x) := by
  rw [writeDouble]
  split
  · simp [IsAsciiLine, isPrintableAscii]
  · split <;> simp [IsAsciiLine, isPrintableAscii]
  · exact (denotes_double ‹_›).isAsciiLine

theorem isAsciiLine_separator : IsAsciiLine [',', ' '] := by simp [IsAsciiLine, isPrintableAscii]

mutual

/-- Whatever the value is, only printable ASCII is written for it. -/
theorem isAsciiLine_writeValue : ∀ v : Value, IsAsciiLine (writeValue v)
  | .null => by simp [writeValue, IsAsciiLine, isPrintableAscii]
  | .bool b => by cases b <;> simp [writeValue, IsAsciiLine, isPrintableAscii]
  | .int n => (denotes_int n).isAsciiLine
  | .float x => isAsciiLine_writeDouble x
  | .str s | .markup s => isAsciiLine_writeText s.toList
  | .list items | .tuple items => by
    have hitems := IsAsciiLine.joinWith isAsciiLine_separator (isAsciiLine_writeItems items)
    exact IsAsciiLine.cons_iff.mpr
      ⟨rfl, IsAsciiLine.append_iff.mpr ⟨hitems, by simp [IsAsciiLine, isPrintableAscii]⟩⟩
  | .dict entries => by
    have hentries := IsAsciiLine.joinWith isAsciiLine_separator (isAsciiLine_writeEntries entries)
    exact IsAsciiLine.cons_iff.mpr
      ⟨rfl, IsAsciiLine.append_iff.mpr ⟨hentries, by simp [IsAsciiLine, isPrintableAscii]⟩⟩
  | .day d => isAsciiLine_writeText (Value.day d).text.toList
  | .moment m => isAsciiLine_writeText (Value.moment m).text.toList
  | .function f => isAsciiLine_writeText (Value.function f).text.toList
  | .method owner name => isAsciiLine_writeText (Value.method owner name).text.toList
  | .view name items => isAsciiLine_writeText (Value.view name items).text.toList
  | .loop index length => isAsciiLine_writeText (Value.loop index length).text.toList
  | .slice start stop step => isAsciiLine_writeText (Value.slice start stop step).text.toList
  | .absent why => isAsciiLine_writeText (Value.absent why).text.toList

theorem isAsciiLine_writeItems : ∀ (items : List Value), ∀ p ∈ writeItems items, IsAsciiLine p
  | [], _, h => by simp [writeItems] at h
  | v :: more, p, h => by
    rw [writeItems, List.mem_cons] at h
    rcases h with rfl | h
    · exact isAsciiLine_writeValue v
    · exact isAsciiLine_writeItems more p h

theorem isAsciiLine_writeEntries :
    ∀ (entries : List (Value × Value)), ∀ p ∈ writeEntries entries, IsAsciiLine p
  | [], _, h => by simp [writeEntries] at h
  | (k, v) :: more, p, h => by
    rw [writeEntries, List.mem_cons] at h
    rcases h with rfl | h
    · refine IsAsciiLine.append_iff.mpr ⟨isAsciiLine_writeText (keyText k), ?_⟩
      exact IsAsciiLine.cons_iff.mpr ⟨rfl, IsAsciiLine.cons_iff.mpr ⟨rfl, isAsciiLine_writeValue v⟩⟩
    · exact isAsciiLine_writeEntries more p h

end

end DeferredViews.Json
