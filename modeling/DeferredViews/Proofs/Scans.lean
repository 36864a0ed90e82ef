import Mathlib.Data.List.Infix

/-!
# Scanning a text for words

A text is scanned from the left for the words of a language: a word that starts where the scan
stands is taken whole, and where none starts one character is passed over. Where no word is the
beginning of another one, every text has at most one scan, and words are found in it if any occur
in the text at all.
-/
namespace DeferredViews.Text

/-- What a scan comes upon: a character that it passes over, or a word. -/
inductive Fragment where
  | single (c : Char)
  | word (w : List Char)
  deriving DecidableEq, Repr

namespace Fragment

def text : Fragment → List Char
  | single c => [c]
  | word w => w

def isWord : Fragment → Bool
  | single _ => false
  | word _ => true

/-- The characters that are left without the words. -/
def rest : Fragment → List Char
  | single c => [c]
  | word _ => []

end Fragment

/-- The scan of a text for the words of a language. -/
inductive Scan (W : List Char → Prop) : List Char → List Fragment → Prop
  | nil : Scan W [] []
  | found {w s : List Char} {fs : List Fragment} (hw : W w) (h : Scan W s fs) :
    Scan W (w ++ s) (.word w :: fs)
  | passed {c : Char} {s : List Char} {fs : List Fragment} (hc : ∀ w, W w → ¬ w <+: c :: s)
    (h : Scan W s fs) : Scan W (c :: s) (.single c :: fs)

/-- A language of words of which none is empty and none is the beginning of another one. -/
structure PrefixFree (W : List Char → Prop) : Prop where
  nonempty : ¬ W []
  eq_of_prefix : ∀ {v w : List Char}, W v → W w → v <+: w → v = w

section

variable {W : List Char → Prop} {s : List Char} {fs gs : List Fragment}

/-- Two words at the start of one text are the same. -/
theorem PrefixFree.eq_of_starts (hW : PrefixFree W) {v w : List Char} (hv : W v) (hw : W w)
    (hvs : v <+: s) (hws : w <+: s) : v = w := by
  rcases List.prefix_or_prefix_of_prefix hvs hws with h | h
  · exact hW.eq_of_prefix hv hw h
  · exact (hW.eq_of_prefix hw hv h).symm

theorem Scan.text_eq (h : Scan W s fs) : fs.flatMap Fragment.text = s := by
  induction h with
  | nil => rfl
  | found hw h ih => rw [List.flatMap_cons, ih]; rfl
  | passed hc h ih => rw [List.flatMap_cons, ih]; rfl

theorem Scan.eq_of_text_eq {t : List Char} (hW : PrefixFree W) (hs : Scan W s fs)
    (ht : Scan W t gs) (heq : s = t) : fs = gs := by
  induction hs generalizing t gs with
  | nil =>
    cases ht with
    | nil => rfl
    | found hw _ =>
      obtain ⟨rfl, -⟩ := List.append_eq_nil_iff.mp heq.symm
      exact absurd hw hW.nonempty
    | passed _ _ => cases heq
  | @found v s fs hv hs ih =>
    cases ht with
    | nil =>
      obtain ⟨rfl, -⟩ := List.append_eq_nil_iff.mp heq
      exact absurd hv hW.nonempty
    | @found w t gs hw ht =>
      obtain rfl := hW.eq_of_starts hv hw (List.prefix_append v s) (heq ▸ List.prefix_append w t)
      rw [ih ht (List.append_cancel_left heq)]
    | passed hc _ => exact absurd (heq ▸ List.prefix_append v s) (hc v hv)
  | @passed c s fs hc hs ih =>
    cases ht with
    | nil => cases heq
    | @found w t gs hw ht => exact absurd (heq ▸ List.prefix_append w t) (hc w hw)
    | passed hd ht =>
      obtain ⟨rfl, hst⟩ := List.cons.inj heq
      rw [ih ht hst]

/-- A text has at most one scan. -/
theorem Scan.unique (hW : PrefixFree W) (h : Scan W s fs) (k : Scan W s gs) : fs = gs :=
  h.eq_of_text_eq hW k rfl

/-- Where no word is found, none occurs. -/
theorem Scan.not_infix_of_singles (h : Scan W s fs) (hW : PrefixFree W)
    (hfs : ∀ f ∈ fs, f.isWord = false) {w : List Char} (hw : W w) : ¬ w <:+: s := by
  induction h with
  | nil =>
    intro hin
    obtain rfl := List.infix_nil.mp hin
    exact hW.nonempty hw
  | found hv h ih => exact absurd (hfs _ List.mem_cons_self) nofun
  | passed hc h ih =>
    intro hin
    rcases List.infix_cons_iff.mp hin with hstart | hlater
    · exact hc w hw hstart
    · exact ih (fun f hf => hfs f (List.mem_cons_of_mem _ hf)) hlater

theorem Scan.word_of_mem (h : Scan W s fs) {w : List Char} (hw : .word w ∈ fs) : W w ∧ w <:+: s := by
  induction h with
  | nil => cases hw
  | @found v s fs hv h ih =>
    rcases List.mem_cons.mp hw with heq | hw
    · obtain rfl := Fragment.word.inj heq
      exact ⟨hv, (List.prefix_append w s).isInfix⟩
    · exact ⟨(ih hw).1, (ih hw).2.trans (List.suffix_append v s).isInfix⟩
  | @passed c s fs hc h ih =>
    rcases List.mem_cons.mp hw with heq | hw
    · cases heq
    · exact ⟨(ih hw).1, (ih hw).2.trans (List.suffix_cons c s).isInfix⟩

theorem rest_eq_text_of_singles (hfs : ∀ f ∈ fs, f.isWord = false) :
    fs.flatMap Fragment.rest = fs.flatMap Fragment.text := by
  refine List.flatMap_congr fun f hf => ?_
  cases f with
  | single c => rfl
  | word w => exact absurd (hfs _ hf) nofun

theorem length_rest_le (fs : List Fragment) :
    (fs.flatMap Fragment.rest).length ≤ (fs.flatMap Fragment.text).length := by
  induction fs with
  | nil => exact Nat.le_refl _
  | cons f fs ih =>
    have hf : f.rest.length ≤ f.text.length := by
      cases f with
      | single c => exact Nat.le_refl _
      | word w => exact Nat.zero_le _
    rw [List.flatMap_cons, List.flatMap_cons, List.length_append, List.length_append]
    exact Nat.add_le_add hf ih

theorem length_rest_lt (hs : Scan W s fs) (hW : PrefixFree W) {w : List Char} (hw : .word w ∈ fs) :
    (fs.flatMap Fragment.rest).length < s.length := by
  have hne : 0 < w.length := by
    rw [List.length_pos_iff]
    rintro rfl
    exact hW.nonempty (hs.word_of_mem hw).1
  obtain ⟨before, after, rfl⟩ := List.append_of_mem hw
  have hbefore := length_rest_le before
  have hafter := length_rest_le after
  rw [← hs.text_eq]
  simp only [List.flatMap_append, List.flatMap_cons, List.length_append, Fragment.rest,
    Fragment.text, List.length_nil]
  omega

/-- A text is what is left of it without its words exactly if no word occurs in it. -/
theorem Scan.rest_eq_iff (hW : PrefixFree W) (h : Scan W s fs) :
    fs.flatMap Fragment.rest = s ↔ ∀ w, W w → ¬ w <:+: s := by
  constructor
  · intro hrest w hw
    refine h.not_infix_of_singles hW (fun f hf => ?_) hw
    cases f with
    | single c => rfl
    | word v => exact absurd (congrArg List.length hrest) (length_rest_lt h hW hf).ne
  · intro hnone
    rw [rest_eq_text_of_singles, h.text_eq]
    intro f hf
    cases f with
    | single c => rfl
    | word v => exact absurd (h.word_of_mem hf).2 (hnone v (h.word_of_mem hf).1)

end

end DeferredViews.Text
