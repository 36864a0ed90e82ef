import DeferredViews.Json.Reader
import DeferredViews.Json.Writer
import DeferredViews.Proofs.ShortestDecimals

/-!
# Written numbers are read back

The text of a number is a numeral: digits, maybe a point and more digits, maybe an exponent. A
numeral is read as the number that its digits spell, up to a character that cannot go on with it.
For a finite double this is a decimal in its basin, so that the double itself is read.
-/
namespace DeferredViews.Json

open Number

/-! ## Digits -/

/-- Digits, at least one. -/
structure AreDigits (s : List Char) : Prop where
  nonempty : s ≠ []
  digits : ∀ c ∈ s, isAsciiDigit c = true

theorem digitsValue_eq (s : List Char) : digitsValue s = Nat.ofDigitChars 10 s 0 := by
  simp [digitsValue, Text.readDigits, Nat.ofDigitChars_eq_foldl, Nat.mul_comm]

@[simp] theorem digitsValue_toDigits (n : ℕ) : digitsValue (Nat.toDigits 10 n) = n := by
  simp [digitsValue_eq, Nat.ofDigitChars_ten_toDigits]

theorem digitsValue_append (s t : List Char) :
    digitsValue (s ++ t) = 10 ^ t.length * digitsValue s + digitsValue t := by
  simp only [digitsValue_eq, Nat.ofDigitChars_append]
  exact Nat.ofDigitChars_eq_ofDigitChars_zero

@[simp] theorem digitsValue_zeros (n : ℕ) : digitsValue (List.replicate n '0') = 0 := by
  simp [digitsValue_eq, Nat.ofDigitChars_replicate_zero]

theorem isAsciiDigit_of_isDigit {c : Char} (h : c.isDigit = true) : isAsciiDigit c = true := by
  simpa [isAsciiDigit, Char.isDigit, Char.le_def] using h

theorem areDigits_toDigits (n : ℕ) : AreDigits (Nat.toDigits 10 n) :=
  ⟨Nat.toDigits_ne_nil, fun _ hc =>
    isAsciiDigit_of_isDigit (Nat.isDigit_of_mem_toDigits (by decide) (by decide) hc)⟩

theorem AreDigits.append_left {s t : List Char} (hs : ∀ c ∈ s, isAsciiDigit c = true)
    (ht : AreDigits t) : AreDigits (s ++ t) := by
  refine ⟨by simp [ht.nonempty], fun c hc => ?_⟩
  rcases List.mem_append.mp hc with hc | hc
  · exact hs c hc
  · exact ht.digits c hc

theorem isAsciiDigit_of_mem_zeros {n : ℕ} {c : Char} (h : c ∈ List.replicate n '0') :
    isAsciiDigit c = true := by
  rw [List.eq_of_mem_replicate h]
  rfl

/-- A text that does not go on with digits. -/
def NoDigit (rest : List Char) : Prop := ∀ c ∈ rest.head?, isAsciiDigit c = false

theorem takeWhile_digits {s rest : List Char} (hs : ∀ c ∈ s, isAsciiDigit c = true)
    (hrest : NoDigit rest) : (s ++ rest).takeWhile isAsciiDigit = s := by
  rw [List.takeWhile_append_of_pos hs]
  cases rest with
  | nil => simp
  | cons c rest => simp [hrest c rfl]

theorem dropWhile_digits {s rest : List Char} (hs : ∀ c ∈ s, isAsciiDigit c = true)
    (hrest : NoDigit rest) : (s ++ rest).dropWhile isAsciiDigit = rest := by
  rw [List.dropWhile_append_of_pos hs]
  cases rest with
  | nil => simp
  | cons c rest => simp [hrest c rfl]

/-! ## Numerals -/

/-- A written number without its sign: digits, digits after a point, and the sign and digits of an
exponent. -/
structure Numeral where
  whole : List Char
  fraction : Option (List Char)
  exponent : Option (Bool × List Char)

namespace Numeral

/-- The fraction with its point. -/
def fractionText (n : Numeral) : List Char := (n.fraction.map ('.' :: ·)).getD []

def exponentText (n : Numeral) : List Char :=
  (n.exponent.map fun (negative, ds) => 'e' :: (if negative then '-' else '+') :: ds).getD []

def text (n : Numeral) : List Char := n.whole ++ n.fractionText ++ n.exponentText

/-- All digits before and after the point. -/
def digits (n : Numeral) : List Char := n.whole ++ n.fraction.getD []

/-- The power of ten of the exponent. -/
def scale (n : Numeral) : ℤ :=
  (n.exponent.map fun (negative, ds) =>
    if negative then -(digitsValue ds : ℤ) else digitsValue ds).getD 0

/-- The power of ten of the last digit. -/
def power (n : Numeral) : ℤ := n.scale - (n.fraction.getD []).length

/-- Every part that stands has digits. -/
structure IsSpelled (n : Numeral) : Prop where
  whole : AreDigits n.whole
  fraction : ∀ ds, n.fraction = some ds → AreDigits ds
  exponent : ∀ negative ds, n.exponent = some (negative, ds) → AreDigits ds

/-- The number that is meant: an integer without fraction and exponent, else a double. -/
def value (n : Numeral) (negative : Bool) : Value :=
  if n.fraction = none ∧ n.exponent = none then
    .int (if negative then -(digitsValue n.whole : ℤ) else digitsValue n.whole)
  else .float (.ofDecimal negative (digitsValue n.digits) n.power)

end Numeral

/-- A text that cannot go on with a number. -/
def EndsNumber (rest : List Char) : Prop :=
  ∀ c ∈ rest.head?, isAsciiDigit c = false ∧ c ≠ '.' ∧ c ≠ 'e' ∧ c ≠ 'E'

theorem EndsNumber.noDigit {rest : List Char} (h : EndsNumber rest) : NoDigit rest :=
  fun c hc => (h c hc).1

/-- Neither a point nor an exponent goes on with digits. -/
theorem Numeral.noDigit_exponentText (n : Numeral) {rest : List Char} (hrest : EndsNumber rest) :
    NoDigit (n.exponentText ++ rest) := by
  obtain ⟨whole, fraction, exponent⟩ := n
  cases exponent with
  | none => simpa [Numeral.exponentText] using hrest.noDigit
  | some e =>
    intro c hc
    simp only [Numeral.exponentText, Option.map_some, Option.getD_some, List.cons_append,
      List.head?_cons, Option.mem_some_iff] at hc
    subst hc
    rfl

@[simp] theorem Numeral.exponentText_none (whole : List Char) (fraction : Option (List Char)) :
    (Numeral.mk whole fraction none).exponentText = [] := rfl

theorem readExponent_exponentText {n : Numeral} (hn : n.IsSpelled) {rest : List Char}
    (hrest : EndsNumber rest) :
    readExponent (n.exponentText ++ rest) = (n.exponent.map fun _ => n.scale, rest) := by
  obtain ⟨whole, fraction, exponent⟩ := n
  cases exponent with
  | none =>
    cases rest with
    | nil => rfl
    | cons c rest =>
      have hc := hrest c rfl
      simp [readExponent, hc.2.2.1, hc.2.2.2]
  | some e =>
    obtain ⟨negative, ds⟩ := e
    have hds := hn.exponent negative ds rfl
    have htake := takeWhile_digits hds.digits hrest.noDigit
    have hdrop := dropWhile_digits hds.digits hrest.noDigit
    cases negative <;>
      simp [readExponent, Numeral.exponentText, Numeral.scale, htake, hdrop, hds.nonempty]

theorem readFraction_fractionText {n : Numeral} (hn : n.IsSpelled) {rest : List Char}
    (hrest : EndsNumber rest) :
    readFraction (n.fractionText ++ (n.exponentText ++ rest)) =
      (n.fraction, n.exponentText ++ rest) := by
  obtain ⟨whole, fraction, exponent⟩ := n
  cases fraction with
  | none =>
    cases exponent with
    | some e => rfl
    | none =>
      cases rest with
      | nil => rfl
      | cons c rest =>
        have hpoint := (hrest c rfl).2.1
        simp only [Numeral.fractionText, Option.map_none, Option.getD_none, List.nil_append,
          Numeral.exponentText_none]
        unfold readFraction
        split <;> simp_all
  | some ds =>
    have hds := hn.fraction ds rfl
    have hend := Numeral.noDigit_exponentText (Numeral.mk whole (some ds) exponent) hrest
    have htake := takeWhile_digits hds.digits hend
    have hdrop := dropWhile_digits hds.digits hend
    simp [readFraction, Numeral.fractionText, htake, hdrop, hds.nonempty]

theorem Numeral.noDigit_fractionText (n : Numeral) {rest : List Char} (hrest : EndsNumber rest) :
    NoDigit (n.fractionText ++ (n.exponentText ++ rest)) := by
  cases hf : n.fraction with
  | none => simpa [Numeral.fractionText, hf] using n.noDigit_exponentText hrest
  | some ds =>
    intro c hc
    simp only [Numeral.fractionText, hf, Option.map_some, Option.getD_some, List.cons_append,
      List.head?_cons, Option.mem_some_iff] at hc
    subst hc
    rfl

/-- The parts of a numeral as its reader takes them from the text behind the sign. -/
theorem Numeral.read_parts {n : Numeral} (hn : n.IsSpelled) {rest : List Char}
    (hrest : EndsNumber rest) :
    (n.text ++ rest).takeWhile isAsciiDigit = n.whole ∧
      readFraction ((n.text ++ rest).dropWhile isAsciiDigit) =
        (n.fraction, n.exponentText ++ rest) := by
  have htext : n.text ++ rest = n.whole ++ (n.fractionText ++ (n.exponentText ++ rest)) := by
    simp [Numeral.text]
  have hend := n.noDigit_fractionText hrest
  rw [htext, takeWhile_digits hn.whole.digits hend, dropWhile_digits hn.whole.digits hend]
  exact ⟨rfl, readFraction_fractionText hn hrest⟩

/-- A numeral is read as the number that it means. -/
theorem readNumber_text {n : Numeral} (hn : n.IsSpelled) (negative : Bool) {rest : List Char}
    (hrest : EndsNumber rest) :
    readNumber ((if negative then ['-'] else []) ++ n.text ++ rest) =
      some (n.value negative, rest) := by
  obtain ⟨hwhole, hfraction⟩ := Numeral.read_parts hn hrest
  have hexponent := readExponent_exponentText hn hrest
  have hnonempty := hn.whole.nonempty
  -- Without a sign the text starts with a digit, and the match on a sign takes its second arm.
  have hplain (s : List Char) : n.text ++ rest ≠ '-' :: s := fun h => by
    simp [h, isAsciiDigit, eq_comm] at hwhole
    exact hnonempty hwhole
  cases negative with
  | true =>
    simp only [↓reduceIte, List.cons_append, List.nil_append, readNumber, hwhole, hfraction,
      hexponent]
    cases hf : n.fraction <;> cases he : n.exponent <;>
      simp [Numeral.value, Numeral.power, Numeral.scale, Numeral.digits, hf, he, hnonempty]
  | false =>
    simp only [Bool.false_eq_true, ↓reduceIte, List.nil_append, readNumber, hwhole, hfraction,
      hexponent]
    cases hf : n.fraction <;> cases he : n.exponent <;>
      simp [Numeral.value, Numeral.power, Numeral.scale, Numeral.digits, hf, he, hnonempty]

/-! ## Numerals of decimals -/

/-- A numeral that spells a decimal and cannot be taken for an integer. -/
structure Spells (n : Numeral) (d : Decimal) : Prop where
  spelled : n.IsSpelled
  marked : n.fraction = none → n.exponent ≠ none
  value : (digitsValue n.digits : ℚ) * 10 ^ n.power = d.value

/-- Digits that spell the coefficient, at its own power of ten. -/
theorem Spells.of_digits {n : Numeral} {d : Decimal} (spelled : n.IsSpelled)
    (marked : n.fraction = none → n.exponent ≠ none)
    (digits : digitsValue n.digits = d.coefficient) (power : n.power = d.exponent) :
    Spells n d :=
  ⟨spelled, marked, by rw [digits, power, Decimal.value]⟩

theorem areDigits_zero : AreDigits ['0'] := ⟨by simp, by simp [isAsciiDigit]⟩

/-- Zeros on the left are digits that count for nothing. -/
theorem areDigits_padded (k n : ℕ) : AreDigits (List.replicate k '0' ++ Nat.toDigits 10 n) :=
  (areDigits_toDigits n).append_left fun _ => isAsciiDigit_of_mem_zeros

theorem digitsValue_padded (k n : ℕ) :
    digitsValue (List.replicate k '0' ++ Nat.toDigits 10 n) = n := by
  simp [digitsValue_append]

theorem AreDigits.of_subset {s t : List Char} (ht : AreDigits t) (h : s ⊆ t) (hs : s ≠ []) :
    AreDigits s := ⟨hs, fun c hc => ht.digits c (h hc)⟩

/-- A whole number, with a zero after the point. -/
theorem spells_whole {d : Decimal} (hexp : 0 ≤ d.exponent) :
    Spells ⟨Nat.toDigits 10 d.coefficient ++ List.replicate d.exponent.toNat '0', some ['0'], none⟩
      d where
  spelled :=
    { whole := ⟨by simp [Nat.toDigits_ne_nil], fun c hc => by
        rcases List.mem_append.mp hc with hc | hc
        · exact (areDigits_toDigits _).digits c hc
        · exact isAsciiDigit_of_mem_zeros hc⟩
      fraction := by rintro ds ⟨⟩; exact areDigits_zero
      exponent := by simp }
  marked := by simp
  value := by
    have hzero : digitsValue ['0'] = 0 := rfl
    have hpower : (10 : ℚ) ^ d.exponent.toNat = 10 ^ d.exponent := by
      rw [← zpow_natCast, Int.toNat_of_nonneg hexp]
    simp only [Numeral.digits, Numeral.power, Numeral.scale, Option.getD_some, Option.map_none,
      Option.getD_none, digitsValue_append, digitsValue_zeros, digitsValue_toDigits, hzero,
      Decimal.value, List.length_singleton, List.length_replicate]
    push_cast
    rw [hpower]
    norm_num
    ring

/-- A point between the digits. -/
theorem spells_pointed {d : Decimal} (whole : ℕ) (hwhole : 0 < whole)
    (hlength : ((Nat.toDigits 10 d.coefficient).length : ℤ) = whole - d.exponent)
    (hexp : d.exponent < 0) :
    Spells ⟨(Nat.toDigits 10 d.coefficient).take whole,
      some ((Nat.toDigits 10 d.coefficient).drop whole), none⟩ d := by
  have hdigits := areDigits_toDigits d.coefficient
  refine Spells.of_digits ⟨?_, ?_, by simp⟩ (by simp) ?_ ?_
  · exact hdigits.of_subset (List.take_subset _ _) (by simp [hdigits.nonempty]; omega)
  · rintro ds ⟨⟩
    exact hdigits.of_subset (List.drop_subset _ _) (by simp; omega)
  · simp [Numeral.digits]
  · simp [Numeral.power, Numeral.scale]
    omega

/-- A number below one: zeros after the point. -/
theorem spells_below_one {d : Decimal} (zeros : ℕ)
    (hzeros : (zeros : ℤ) + (Nat.toDigits 10 d.coefficient).length = -d.exponent) :
    Spells ⟨['0'], some (List.replicate zeros '0' ++ Nat.toDigits 10 d.coefficient), none⟩ d := by
  refine Spells.of_digits ⟨areDigits_zero, ?_, by simp⟩ (by simp) ?_ ?_
  · rintro ds ⟨⟩
    exact areDigits_padded _ _
  · rw [Numeral.digits, Option.getD_some, digitsValue_append, digitsValue_padded]
    simp [digitsValue, Text.readDigits]
  · simp only [Numeral.power, Numeral.scale, Option.map_none, Option.getD_none, Option.getD_some,
      List.length_append, List.length_replicate]
    push_cast
    omega

/-- The digits after the first one, as a fraction if there are any. -/
def fractionOf (digits : List Char) : Option (List Char) :=
  if digits.drop 1 = [] then none else some (digits.drop 1)

/-- A digit before the point and an exponent. -/
theorem spells_scientific {d : Decimal} {place : ℤ} (width : ℕ)
    (hplace : place = (Nat.toDigits 10 d.coefficient).length - 1 + d.exponent) :
    Spells ⟨(Nat.toDigits 10 d.coefficient).take 1, fractionOf (Nat.toDigits 10 d.coefficient),
      some (decide (place < 0), List.replicate width '0' ++ Nat.toDigits 10 place.natAbs)⟩ d := by
  have hdigits := areDigits_toDigits d.coefficient
  have hfraction : (fractionOf (Nat.toDigits 10 d.coefficient)).getD [] =
      (Nat.toDigits 10 d.coefficient).drop 1 := by
    unfold fractionOf
    split <;> simp_all
  refine Spells.of_digits ⟨?_, ?_, ?_⟩ (by simp) ?_ ?_
  · exact hdigits.of_subset (List.take_subset _ _) (by simp [hdigits.nonempty])
  · intro ds hds
    unfold fractionOf at hds
    split at hds
    · cases hds
    · obtain rfl := Option.some.inj hds
      exact hdigits.of_subset (List.drop_subset _ _) ‹_›
  · rintro negative ds ⟨⟩
    exact areDigits_padded _ _
  · rw [Numeral.digits, hfraction, List.take_append_drop, digitsValue_toDigits]
  · have hlength := List.length_pos_of_ne_nil hdigits.nonempty
    have hscale : (if decide (place < 0) then -(place.natAbs : ℤ) else place.natAbs) = place := by
      simp only [decide_eq_true_eq]
      split <;> omega
    simp only [Numeral.power, Numeral.scale, Option.map_some, Option.getD_some, hfraction,
      digitsValue_padded, List.length_drop, hscale]
    omega

/-- The text of a decimal is that of a numeral that spells it. -/
theorem exists_spells (d : Decimal) : ∃ n, Spells n d ∧ n.text = d.text floatStyle := by
  have hlength := List.length_pos_of_ne_nil (areDigits_toDigits d.coefficient).nonempty
  obtain ⟨place, hplace⟩ :
      ∃ place : ℤ, place = (Nat.toDigits 10 d.coefficient).length - 1 + d.exponent := ⟨_, rfl⟩
  simp only [Decimal.text, ← hplace]
  by_cases hplain : floatStyle.positionalFrom ≤ place ∧ place < floatStyle.positionalBelow
  · rw [if_pos hplain]
    split_ifs with hexp hpoint
    · exact ⟨_, spells_whole hexp, by simp [Numeral.text, Numeral.fractionText]⟩
    · refine ⟨_, spells_pointed (place + 1).toNat (by omega) (by omega) (by omega), ?_⟩
      simp [Numeral.text, Numeral.fractionText]
    · refine ⟨_, spells_below_one (-place - 1).toNat (by omega), ?_⟩
      simp [Numeral.text, Numeral.fractionText]
  · rw [if_neg hplain]
    refine ⟨_, spells_scientific (floatStyle.exponentDigits -
      (Nat.toDigits 10 place.natAbs).length) hplace, ?_⟩
    rcases Nat.toDigits 10 d.coefficient with _ | ⟨c, _ | ⟨c', more⟩⟩ <;>
      simp [Numeral.text, Numeral.fractionText, fractionOf, Numeral.exponentText]

example :
    [(15, 2), (15, -1), (15, -4), (15, 20)].map
        (fun (c, k) => String.ofList (Decimal.text floatStyle ⟨c, k⟩)) =
      ["1500.0", "1.5", "0.0015", "1.5e+21"] := by
  decide +kernel

/-! ## Integers and doubles -/

theorem toList_toString_int (n : ℤ) :
    (toString n).toList = (if n < 0 then ['-'] else []) ++ Nat.toDigits 10 n.natAbs := by
  cases n with
  | ofNat m => simp [Int.toString_eq_repr, Int.repr, Nat.repr]
  | negSucc m => simp [Int.toString_eq_repr, Int.repr, Nat.repr]

/-- A numeral, behind a minus if it is negative, that means the value. -/
def Denotes (s : List Char) (v : Value) : Prop :=
  ∃ (negative : Bool) (n : Numeral), n.IsSpelled ∧
    s = (if negative then ['-'] else []) ++ n.text ∧ n.value negative = v

theorem denotes_int (n : ℤ) : Denotes (toString n).toList (.int n) := by
  refine ⟨decide (n < 0), ⟨Nat.toDigits 10 n.natAbs, none, none⟩,
    ⟨areDigits_toDigits _, by simp, by simp⟩, ?_, ?_⟩
  · rw [toList_toString_int]
    simp [Numeral.text, Numeral.fractionText]
  · simp only [Numeral.value, and_self, ↓reduceIte, digitsValue_toDigits, decide_eq_true_eq,
      Value.int.injEq]
    split <;> omega

/-- The decimal that is written for a double is read as the double. -/
theorem ofDecimal_shortest {negative : Bool} {m : ℕ} {e : ℤ} (h : IsScaled m e) {c : ℕ} {k : ℤ}
    (hvalue : (c : ℚ) * 10 ^ k = (shortest m e).value) :
    Double.ofDecimal negative c k = Double.ofParts negative m e := by
  rcases Nat.eq_zero_or_pos m with rfl | hm
  · obtain rfl : c = 0 := by
      simpa [shortest, Decimal.value, (ten_zpow_pos k).ne'] using hvalue
    simp [Double.ofDecimal, Double.ofParts]
  · exact Double.ofDecimal_eq negative h hm (hvalue ▸ shortest_contains h hm)

theorem denotes_double {x : Double} {negative : Bool} {m : ℕ} {e : ℤ}
    (hx : x.shape = .finite negative m e) : Denotes x.text.toList (.float x) := by
  obtain ⟨hscaled, hparts⟩ := Double.of_shape hx
  obtain ⟨n, hn, htext⟩ := exists_spells (shortest m e)
  refine ⟨negative, n, hn.spelled, ?_, ?_⟩
  · simp [Double.text, hx, htext]
  · rw [Numeral.value, if_neg fun h => hn.marked h.1 h.2, ofDecimal_shortest hscaled hn.value,
      ← hparts]

variable {s : List Char} {v : Value}

/-- A number is read back from its text. -/
theorem Denotes.readNumber_append (h : Denotes s v) {rest : List Char} (hrest : EndsNumber rest) :
    readNumber (s ++ rest) = some (v, rest) := by
  obtain ⟨negative, n, hn, rfl, rfl⟩ := h
  exact readNumber_text hn negative hrest

/-- The text of a number starts with a minus or a digit. -/
theorem Denotes.head (h : Denotes s v) :
    ∃ c t, s = c :: t ∧ (c = '-' ∨ isAsciiDigit c = true) := by
  obtain ⟨negative, n, hn, rfl, rfl⟩ := h
  cases negative with
  | true => exact ⟨'-', n.text, rfl, .inl rfl⟩
  | false =>
    cases hw : n.whole with
    | nil => exact absurd hw hn.whole.nonempty
    | cons c t =>
      refine ⟨c, t ++ n.fractionText ++ n.exponentText, by simp [Numeral.text, hw], .inr ?_⟩
      exact hn.whole.digits c (by simp [hw])

/-- The characters of numbers. -/
def isNumberChar (c : Char) : Bool := isAsciiDigit c || c ∈ ['-', '+', '.', 'e']

theorem Denotes.chars (h : Denotes s v) : ∀ c ∈ s, isNumberChar c = true := by
  obtain ⟨negative, n, hn, rfl, rfl⟩ := h
  have hdigits {ds : List Char} (hds : AreDigits ds) : ∀ c ∈ ds, isNumberChar c = true :=
    fun c hc => by simp [isNumberChar, hds.digits c hc]
  intro c hc
  simp only [Numeral.text, List.mem_append] at hc
  rcases hc with hsign | (hwhole | hfraction) | hexponent
  · cases negative <;> simp_all [isNumberChar]
  · exact hdigits hn.whole c hwhole
  · cases hf : n.fraction with
    | none => simp [Numeral.fractionText, hf] at hfraction
    | some ds =>
      simp only [Numeral.fractionText, hf, Option.map_some, Option.getD_some, List.mem_cons]
        at hfraction
      rcases hfraction with rfl | hc
      · simp [isNumberChar]
      · exact hdigits (hn.fraction ds hf) c hc
  · cases he : n.exponent with
    | none => simp [Numeral.exponentText, he] at hexponent
    | some e =>
      obtain ⟨negative, ds⟩ := e
      simp only [Numeral.exponentText, he, Option.map_some, Option.getD_some, List.mem_cons]
        at hexponent
      rcases hexponent with rfl | rfl | hc
      · simp [isNumberChar]
      · cases negative <;> simp [isNumberChar]
      · exact hdigits (hn.exponent negative ds he) c hc

end DeferredViews.Json
