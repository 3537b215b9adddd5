import AudioLibrary.Relational.Like

/-!
# Characters that count as the same

Small facts about folding ASCII capitals and about `likeFold`, the folding of pattern matching.
Both are read off code points: `toNat_toLower` turns every statement about a folded character into
linear arithmetic.
-/

namespace AudioLibrary.Text

open AudioLibrary.Relational

theorem toNat_toLower (c : Char) :
    c.toLower.toNat = if 65 ≤ c.toNat ∧ c.toNat ≤ 90 then c.toNat + 32 else c.toNat := by
  unfold Char.toLower
  by_cases h : c.val ≥ 'A'.val ∧ c.val ≤ 'Z'.val
  · have hn : 65 ≤ c.toNat ∧ c.toNat ≤ 90 :=
      ⟨UInt32.le_iff_toNat_le.1 h.1, UInt32.le_iff_toNat_le.1 h.2⟩
    rw [dif_pos h, if_pos hn]
    show (c.val + 32).toNat = c.val.toNat + 32
    have hle : c.val.toNat ≤ 90 := hn.2
    rw [UInt32.toNat_add]
    show (c.val.toNat + 32) % 2 ^ 32 = c.val.toNat + 32
    omega
  · have hn : ¬ (65 ≤ c.toNat ∧ c.toNat ≤ 90) := fun hn =>
      h ⟨UInt32.le_iff_toNat_le.2 hn.1, UInt32.le_iff_toNat_le.2 hn.2⟩
    rw [dif_neg h, if_neg hn]

theorem eq_iff_toNat_eq {c d : Char} : c = d ↔ c.toNat = d.toNat := Char.toNat_inj.symm

theorem toLower_toLower (c : Char) : c.toLower.toLower = c.toLower := by
  simp only [eq_iff_toNat_eq, toNat_toLower]
  by_cases h : 65 ≤ c.toNat ∧ c.toNat ≤ 90
  · rw [if_pos h, if_neg (by omega)]
  · simp only [if_neg h]

/-- Folding gives no character below the letters that was not there before. -/
theorem toLower_eq_iff_of_lt {c d : Char} (hd : d.toNat < 65) : c.toLower = d ↔ c = d := by
  simp only [eq_iff_toNat_eq, toNat_toLower]
  split <;> omega

/-- Nor does it give one beyond them. -/
theorem toLower_eq_iff_of_gt {c d : Char} (hd : 122 < d.toNat) : c.toLower = d ↔ c = d := by
  simp only [eq_iff_toNat_eq, toNat_toLower]
  split <;> omega

theorem likeFold_eq_iff_of_lt {c d : Char} (hd : d.toNat < 65) : likeFold c = d ↔ c = d := by
  have hreplacement : ('\ufffd' : Char).toNat = 65533 := rfl
  unfold likeFold
  split
  · next h =>
      have hc : c.toNat = 65534 ∨ c.toNat = 65535 := h.imp (congrArg _) (congrArg _)
      simp only [eq_iff_toNat_eq, hreplacement]
      omega
  · exact toLower_eq_iff_of_lt hd

@[simp] theorem likeFold_toLower (c : Char) : likeFold c.toLower = likeFold c := by
  have hfirst : ('\ufffe' : Char).toNat = 65534 := rfl
  have hlast : ('\uffff' : Char).toNat = 65535 := rfl
  have hsame : (c.toLower = '\ufffe' ∨ c.toLower = '\uffff') ↔ (c = '\ufffe' ∨ c = '\uffff') := by
    simp only [eq_iff_toNat_eq, toNat_toLower, hfirst, hlast]
    split <;> omega
  unfold likeFold
  simp only [hsame, toLower_toLower]

end AudioLibrary.Text
