import AudioLibrary.Proofs.Text.Folding
import AudioLibrary.Text.Casing
import AudioLibrary.Text.Collation

/-!
# The lower case of folded texts

Folding ASCII capitals changes neither the lower case image of a character nor whether it is cased
or passed over, and so not the shape of a sigma after it.  A text and its folded form have one lower
case form, `lowercase_foldCase`.
-/

namespace AudioLibrary.Text

/-- A class of code points that has both cases of every ASCII letter, or neither, is closed under
folding. -/
theorem inRanges_toLower {ranges : List (Nat × Nat)}
    (h : ∀ n < 91, 65 ≤ n → inRanges ranges (n + 32) = inRanges ranges n) (c : Char) :
    inRanges ranges c.toLower.toNat = inRanges ranges c.toNat := by
  rw [toNat_toLower]
  split
  · next hcapital => exact h c.toNat (by omega) hcapital.1
  · rfl

theorem isCased_toLower (c : Char) : isCased c.toLower = isCased c :=
  inRanges_toLower (by decide +kernel) c

theorem isCaseIgnorable_toLower (c : Char) : isCaseIgnorable c.toLower = isCaseIgnorable c :=
  inRanges_toLower (by decide +kernel) c

theorem toLower_of_not_ascii {c : Char} (h : ¬ c.toNat < 128) : c.toLower = c := by
  rw [eq_iff_toNat_eq, toNat_toLower, if_neg (by omega)]

theorem lowercaseChar_toLower (c : Char) : lowercaseChar c.toLower = lowercaseChar c := by
  by_cases hascii : c.toNat < 128
  · have hlower : c.toLower.toNat < 128 := by
      rw [toNat_toLower]
      split <;> omega
    unfold lowercaseChar
    rw [if_pos hlower, if_pos hascii, toLower_toLower]
  · rw [toLower_of_not_ascii hascii]

theorem continuesWord_foldCase (s : List Char) : continuesWord (foldCase s) = continuesWord s := by
  have hignorable : isCaseIgnorable ∘ Char.toLower = isCaseIgnorable :=
    funext isCaseIgnorable_toLower
  unfold continuesWord foldCase
  rw [List.dropWhile_map, hignorable]
  cases s.dropWhile isCaseIgnorable with
  | nil => rfl
  | cons c rest => exact isCased_toLower c

/-- Folding changes nothing for the lower case, of what is passed and of what follows. -/
theorem lowercaseFrom_foldCase (before rest : List Char) :
    lowercaseFrom (foldCase before) (foldCase rest) = lowercaseFrom before rest := by
  induction rest generalizing before with
  | nil => rfl
  | cons c rest ih =>
      have hsigma : c.toLower = '\u03A3' ↔ c = '\u03A3' := toLower_eq_iff_of_gt (by decide)
      have hrest := ih (c :: before)
      show (if c.toLower = '\u03A3' then
          [if continuesWord (foldCase before) && !continuesWord (foldCase rest) then '\u03C2'
            else '\u03C3']
        else lowercaseChar c.toLower) ++ lowercaseFrom (foldCase (c :: before)) (foldCase rest) = _
      simp only [hsigma, continuesWord_foldCase, lowercaseChar_toLower, hrest]
      rfl

/-- **A text and its folded form have one lower case form.** -/
theorem lowercase_foldCase (s : List Char) : lowercase (foldCase s) = lowercase s :=
  lowercaseFrom_foldCase [] s

end AudioLibrary.Text
