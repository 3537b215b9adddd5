/-!
# Replacing within a text

Occurrences are found from left to right, and none overlaps the one before it.
-/

namespace AudioLibrary.Relational

/-- `replaceFrom old new skip text` replaces in `text` after passing over `skip` characters of an
occurrence that has been replaced already. -/
def replaceFrom (old new : List Char) : Nat → List Char → List Char
  | _, [] => []
  | skip + 1, _ :: rest => replaceFrom old new skip rest
  | 0, c :: rest =>
      if old.isPrefixOf (c :: rest) then new ++ replaceFrom old new (old.length - 1) rest
      else c :: replaceFrom old new 0 rest

/-- `text` with every occurrence of `old` replaced; an empty `old` occurs nowhere. -/
def replaceAll (old new text : List Char) : List Char :=
  if old.isEmpty then text else replaceFrom old new 0 text

example : replaceAll [',', ','] [','] [',', ',', ',', 'a'] = [',', ',', 'a'] := by decide

/-- Replacing a single character by nothing drops it. -/
theorem replaceAll_singleton_nil (c : Char) (text : List Char) :
    replaceAll [c] [] text = text.filter (· ≠ c) := by
  have h : ∀ text, replaceFrom [c] [] 0 text = text.filter (· ≠ c) := by
    intro text
    induction text with
    | nil => rfl
    | cons d text ih =>
        by_cases hd : c = d
        · subst hd
          simpa [replaceFrom, List.isPrefixOf] using ih
        · have hne : d ≠ c := fun h => hd h.symm
          simpa [replaceFrom, hd, hne, List.isPrefixOf] using ih
  simp [replaceAll, h]

/-- Replacing one character by another maps it. -/
theorem replaceAll_singleton_singleton (c d : Char) (text : List Char) :
    replaceAll [c] [d] text = text.map fun x => if x = c then d else x := by
  have h : ∀ text, replaceFrom [c] [d] 0 text = text.map fun x => if x = c then d else x := by
    intro text
    induction text with
    | nil => rfl
    | cons x text ih =>
        by_cases hx : c = x
        · subst hx
          simpa [replaceFrom, List.isPrefixOf] using ih
        · have hne : x ≠ c := fun h => hx h.symm
          simpa [replaceFrom, hx, hne, List.isPrefixOf] using ih
  simp [replaceAll, h]

end AudioLibrary.Relational
