import AudioLibrary.Text.Blank
import Mathlib.Data.List.Infix

/-!
# Trimmed texts

A trimmed text neither starts nor ends with a character that is trimmed.  A word of which the same
is true is not cut when a text is trimmed in which it stands, `infix_trim`.
-/

namespace AudioLibrary.Text

variable {p : Char → Bool} {word text : List Char}

/-- Whether a text neither starts nor ends with a character of a class. -/
structure IsTrimmed (p : Char → Bool) (s : List Char) : Prop where
  head : ∀ c ∈ s.head?, p c = false
  last : ∀ c ∈ s.reverse.head?, p c = false

theorem head?_dropWhile (p : Char → Bool) (s : List Char) :
    ∀ c ∈ (s.dropWhile p).head?, p c = false := by
  intro c hc
  have hnot := List.head?_dropWhile_not p s
  rwa [hc] at hnot

/-- What is trimmed starts where what is dropped in front ends. -/
theorem isPrefix_trim (p : Char → Bool) (s : List Char) : trim p s <+: s.dropWhile p := by
  unfold trim
  rw [← List.reverse_suffix, List.reverse_reverse]
  exact List.dropWhile_suffix p

theorem isInfix_trim (p : Char → Bool) (s : List Char) : trim p s <:+: s :=
  (isPrefix_trim p s).isInfix.trans (List.dropWhile_suffix p).isInfix

theorem isTrimmed_trim (p : Char → Bool) (s : List Char) : IsTrimmed p (trim p s) where
  head := by
    intro c hc
    refine head?_dropWhile p s c ?_
    obtain ⟨rest, hrest⟩ := isPrefix_trim p s
    rw [← hrest]
    exact List.mem_head?_append_of_mem_head? hc
  last := by
    unfold trim
    rw [List.reverse_reverse]
    exact head?_dropWhile p _

/-- Dropping in front leaves a word that starts with another character. -/
theorem infix_dropWhile (hhead : ∀ c ∈ word.head?, p c = false) (h : word <:+: text) :
    word <:+: text.dropWhile p := by
  induction text with
  | nil => exact h
  | cons c text ih =>
      by_cases hc : p c = true
      · rw [List.dropWhile_cons_of_pos hc]
        rcases List.infix_cons_iff.1 h with hstart | hinside
        · cases word with
          | nil => exact List.nil_infix
          | cons d word =>
              obtain ⟨rfl, -⟩ := List.cons_prefix_cons.1 hstart
              rw [hhead d rfl] at hc
              exact absurd hc Bool.false_ne_true
        · exact ih hinside
      · rw [List.dropWhile_cons_of_neg hc]
        exact h

/-- **Trimming a text does not cut a trimmed word in it.** -/
theorem infix_trim (hword : IsTrimmed p word) (h : word <:+: text) : word <:+: trim p text := by
  unfold trim
  rw [← List.reverse_infix, List.reverse_reverse]
  exact infix_dropWhile hword.last (List.reverse_infix.2 (infix_dropWhile hword.head h))

theorem trim_infix_trim (h : word <:+: text) : trim p word <:+: trim p text :=
  infix_trim (isTrimmed_trim p word) ((isInfix_trim p word).trans h)

theorem IsTrimmed.trim_eq (h : IsTrimmed p text) : trim p text = text :=
  (isInfix_trim p text).eq_of_length_le (infix_trim h List.infix_rfl).length_le

end AudioLibrary.Text
