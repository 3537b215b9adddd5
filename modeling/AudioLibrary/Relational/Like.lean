import AudioLibrary.Text.Search

/-!
# Pattern matching

A pattern is a text in which a percent sign stands for any text, an underscore for any character,
and an escape character makes the character after it literal.  Letters match regardless of case
within ASCII.

What is matched may hold places that are no character, where bytes were read as a text; such a
place is matched by an underscore or a percent sign only.

`escape` turns a text into a pattern that matches it literally.
-/

namespace AudioLibrary.Relational

/-- The character that makes the next one of a pattern literal. -/
def escapeMark : Char := '\\'

/-- One element of a pattern. -/
inductive LikeToken where
  /-- Any text, also the empty one. -/
  | anyText
  /-- Any one character. -/
  | anyChar
  /-- This character. -/
  | exactly (c : Char)
deriving DecidableEq, Repr

/-- The elements of a pattern; nothing if an escape character ends it. -/
def likeTokens? : List Char → Option (List LikeToken)
  | [] => some []
  -- the character after the mark is taken as it is, whatever it is
  | '\\' :: c :: rest => (likeTokens? rest).map (.exactly c :: ·)
  | c :: rest =>
      if c = escapeMark then none
      else if c = '%' then (likeTokens? rest).map (.anyText :: ·)
      else if c = '_' then (likeTokens? rest).map (.anyChar :: ·)
      else (likeTokens? rest).map (.exactly c :: ·)

/-- What a character is compared by: ASCII capitals are folded, and the two noncharacters at the
end of the basic plane count as the replacement character. -/
def likeFold (c : Char) : Char :=
  if c = '\ufffe' ∨ c = '\uffff' then '\ufffd' else c.toLower

/-- A character of what is matched; none where there is no character. -/
abbrev Place := Option Char

/-- Whether a text is an instance of a pattern. -/
def matchesTokens : List LikeToken → List Place → Bool
  | [], text => text.isEmpty
  | .anyText :: pattern, text => Text.anySuffix (matchesTokens pattern) text
  | .anyChar :: _, [] => false
  | .anyChar :: pattern, _ :: text => matchesTokens pattern text
  | .exactly _ :: _, [] => false
  | .exactly c :: pattern, place :: text =>
      place.any (fun d => likeFold c == likeFold d) && matchesTokens pattern text

/-- What pattern matching sees of a text: nothing from the first U+0000 on. -/
def visible (text : List Place) : List Place := text.takeWhile (· ≠ some '\x00')

/-- What counts of a pattern: nothing from the first U+0000 on. -/
def effective (pattern : List Char) : List Char := pattern.takeWhile (· ≠ '\x00')

/-- Whether a text is like a pattern. -/
def like (text : List Place) (pattern : List Char) : Bool :=
  match likeTokens? (effective pattern) with
  | some tokens => matchesTokens tokens (visible text)
  | none => false

/-- A text as a pattern for itself. -/
def escape : List Char → List Char
  | [] => []
  | c :: rest =>
      if c = '%' ∨ c = '_' ∨ c = escapeMark then escapeMark :: c :: escape rest
      else c :: escape rest

/-- The elements of an escaped text are its characters. -/
theorem likeTokens?_escape_append (text rest : List Char) :
    likeTokens? (escape text ++ rest) =
      (likeTokens? rest).map (text.map LikeToken.exactly ++ ·) := by
  induction text with
  | nil => simp [escape]
  | cons c text ih =>
      by_cases h : c = '%' ∨ c = '_' ∨ c = escapeMark
      · have he : escape (c :: text) = '\\' :: c :: escape text := by
          rw [escape, if_pos h]; rfl
        rw [he, List.cons_append, List.cons_append, likeTokens?, ih]
        cases likeTokens? rest <;> rfl
      · have he : escape (c :: text) = c :: escape text := by rw [escape, if_neg h]
        have hmark : c ≠ escapeMark := fun hc => h (Or.inr (Or.inr hc))
        rw [he, List.cons_append, likeTokens?, if_neg hmark,
          if_neg fun hc => h (Or.inl hc), if_neg fun hc => h (Or.inr (Or.inl hc)), ih]
        · cases likeTokens? rest <;> rfl
        · intro d rest' hc
          exact absurd hc hmark

end AudioLibrary.Relational
