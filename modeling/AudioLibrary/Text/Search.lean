/-!
# Searching texts

`anySuffix p s` asks whether `p` holds of some suffix of `s`, `occurs w s` whether `w` stands
somewhere in `s`.
-/

namespace AudioLibrary.Text

variable {α : Type}

/-- Whether a predicate holds of a text or of what is left of it after some of its first
characters. -/
def anySuffix (p : List α → Bool) : List α → Bool
  | [] => p []
  | c :: rest => p (c :: rest) || anySuffix p rest

/-- Whether a text stands within another. -/
def occurs (word text : List Char) : Bool := anySuffix word.isPrefixOf text

theorem anySuffix_iff {p : List α → Bool} {s : List α} :
    anySuffix p s = true ↔ ∃ t, t <:+ s ∧ p t = true := by
  induction s with
  | nil => simp [anySuffix]
  | cons c s ih => simp [anySuffix, ih, List.suffix_cons_iff, or_and_right, exists_or]

/-- A text stands within another exactly if it is a contiguous part of it. -/
theorem occurs_iff {word text : List Char} : occurs word text = true ↔ word <:+: text := by
  rw [occurs, anySuffix_iff, List.infix_iff_prefix_suffix]
  simp only [List.isPrefixOf_iff_prefix]
  exact ⟨fun ⟨t, hs, hp⟩ => ⟨t, hp, hs⟩, fun ⟨t, hp, hs⟩ => ⟨t, hs, hp⟩⟩

end AudioLibrary.Text
