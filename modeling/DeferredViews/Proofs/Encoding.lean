import DeferredViews.Proofs.Folders

/-!
# Written text is read back

The bytes that are written for a text are decoded to that text, so a file tells what was written to
it.
-/
namespace DeferredViews

namespace Text

/-- What a byte that continues a character adds to it. -/
theorem continuation_cons {more low high acc n b : Nat} {rest : List Nat} (hlow : low ≤ b)
    (hhigh : b ≤ high) (h : continuation more 0x80 0xBF (acc * 64 + (b - 0x80)) rest = .ok n) :
    continuation (more + 1) low high acc (b :: rest) = .ok n := by
  rw [continuation, if_pos ⟨hlow, hhigh⟩, h]

theorem decodeChar_lead {position b more low high acc n : Nat} {rest : List Nat} (hb : ¬ b < 0x80)
    (hlead : leadByte b = some (more, low, high, acc))
    (h : continuation more low high acc rest = .ok n) :
    decodeChar position b rest = .ok (Char.ofNat n, more + 1) := by
  rw [decodeChar, if_neg hb, hlead]
  dsimp only
  rw [h]

/-- The bytes that start characters of two, three and four bytes. -/
theorem leadByte_of_two {b : Nat} (hlow : 0xC2 ≤ b) (hhigh : b < 0xE0) :
    leadByte b = some (1, 0x80, 0xBF, b - 0xC0) := by
  rw [leadByte, if_neg (by omega), if_pos hhigh]

theorem leadByte_of_three {b : Nat} (hlow : 0xE0 ≤ b) (hhigh : b < 0xF0) :
    leadByte b =
      some (2, if b = 0xE0 then 0xA0 else 0x80, if b = 0xED then 0x9F else 0xBF, b - 0xE0) := by
  rw [leadByte, if_neg (by omega), if_neg (by omega)]
  by_cases hfirst : b = 0xE0
  · subst hfirst
    rfl
  · rw [if_neg hfirst, if_neg hfirst]
    by_cases hlast : b = 0xED
    · rw [if_pos hlast, if_pos hlast]
    · rw [if_neg hlast, if_neg hlast, if_pos hhigh]

theorem leadByte_of_four {b : Nat} (hlow : 0xF0 ≤ b) (hhigh : b ≤ 0xF4) :
    leadByte b =
      some (3, if b = 0xF0 then 0x90 else 0x80, if b = 0xF4 then 0x8F else 0xBF, b - 0xF0) := by
  rw [leadByte, if_neg (by omega), if_neg (by omega), if_neg (by omega), if_neg (by omega),
    if_neg (by omega)]
  by_cases hfirst : b = 0xF0
  · subst hfirst
    rfl
  · rw [if_neg hfirst, if_neg hfirst]
    by_cases hlast : b = 0xF4
    · subst hlast
      rfl
    · rw [if_neg hlast, if_neg hlast, if_pos (by omega)]

theorem decodeChar_encodeChar (position : Nat) (c : Char) (rest : List Nat) :
    ∃ b more, encodeChar c = b :: more ∧
      decodeChar position b (more ++ rest) = .ok (c, more.length + 1) := by
  have hvalid : c.toNat < 0xD800 ∨ 0xDFFF < c.toNat ∧ c.toNat < 0x110000 := c.valid
  have hchar : Char.ofNat c.toNat = c := c.ofNat_toNat
  rw [encodeChar]
  generalize c.toNat = n at hvalid hchar
  subst hchar
  by_cases hone : n < 0x80
  · rw [if_pos hone]
    exact ⟨n, [], rfl, if_pos hone⟩
  rw [if_neg hone]
  by_cases htwo : n < 0x800
  · rw [if_pos htwo]
    refine ⟨_, _, rfl, decodeChar_lead (by omega) (leadByte_of_two (by omega) (by omega)) ?_⟩
    refine continuation_cons (by omega) (by omega) (congrArg Except.ok ?_)
    omega
  rw [if_neg htwo]
  by_cases hthree : n < 0x10000
  · rw [if_pos hthree]
    refine ⟨_, _, rfl, decodeChar_lead (by omega) (leadByte_of_three (by omega) (by omega)) ?_⟩
    refine continuation_cons (by split <;> omega) (by split <;> omega) ?_
    refine continuation_cons (by omega) (by omega) (congrArg Except.ok ?_)
    omega
  · rw [if_neg hthree]
    refine ⟨_, _, rfl, decodeChar_lead (by omega) (leadByte_of_four (by omega) (by omega)) ?_⟩
    refine continuation_cons (by split <;> omega) (by split <;> omega) ?_
    refine continuation_cons (by omega) (by omega) ?_
    refine continuation_cons (by omega) (by omega) (congrArg Except.ok ?_)
    omega

/-- The bytes of a character that was read are passed over. -/
theorem decodeFrom_append (position : Nat) (read rest : List Nat) :
    decodeFrom position read.length (read ++ rest) = decodeFrom (position + read.length) 0 rest := by
  induction read generalizing position with
  | nil => rfl
  | cons b read ih =>
    rw [List.length_cons, List.cons_append, decodeFrom, ih]
    congr 1
    omega

theorem decodeFrom_encodeUtf8 (position : Nat) (s : List Char) :
    decodeFrom position 0 (encodeUtf8 s) = .ok s := by
  induction s generalizing position with
  | nil => rfl
  | cons c s ih =>
    obtain ⟨b, more, hencoded, hdecoded⟩ := decodeChar_encodeChar position c (encodeUtf8 s)
    have hbytes : encodeUtf8 (c :: s) = b :: (more ++ encodeUtf8 s) := by
      rw [encodeUtf8, List.flatMap_cons, hencoded]
      rfl
    rw [hbytes, decodeFrom, hdecoded]
    dsimp only
    rw [Nat.add_sub_cancel, decodeFrom_append, ih]

theorem decodeUtf8_encodeUtf8 (s : List Char) : decodeUtf8 (encodeUtf8 s) = .ok s :=
  decodeFrom_encodeUtf8 0 s

theorem encodeUtf8_injective : Function.Injective encodeUtf8 := by
  intro s t h
  have hdecoded := decodeUtf8_encodeUtf8 s
  rw [h, decodeUtf8_encodeUtf8] at hdecoded
  exact (Except.ok.inj hdecoded).symm

end Text

namespace Files

/-- Written text is read with unified line ends. -/
theorem Tree.readText_of_read {t : Tree} {p : Path} {s : List Char}
    (h : t.read p = .ok (Text.encodeUtf8 s)) :
    t.readText p = .ok (String.ofList (Text.unifyLineEnds s)) := by
  rw [readText, h]
  dsimp only
  rw [Text.decodeUtf8_encodeUtf8]

end Files
end DeferredViews
