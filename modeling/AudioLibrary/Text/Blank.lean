/-!
# Blank characters and trimming

`isBlank` is the White_Space property, `trim p` cuts the characters of a class from both ends of a
text.  Search text, circle names and preset names are trimmed with `isBlank`; credits have a class
of their own.
-/

namespace AudioLibrary.Text

/-- The White_Space property. -/
def isBlank (c : Char) : Bool :=
  let n := c.toNat
  (0x09 ≤ n && n ≤ 0x0D) || n == 0x20 || n == 0x85 || n == 0xA0 || n == 0x1680 ||
    (0x2000 ≤ n && n ≤ 0x200A) || n == 0x2028 || n == 0x2029 || n == 0x202F || n == 0x205F ||
    n == 0x3000

/-- `s` without the leading and trailing characters that satisfy `p`. -/
def trim (p : Char → Bool) (s : List Char) : List Char :=
  ((s.dropWhile p).reverse.dropWhile p).reverse

/-- `s` without the leading and trailing blanks. -/
def trimBlanks (s : String) : String :=
  String.ofList (trim isBlank s.toList)

@[simp] theorem trim_nil (p : Char → Bool) : trim p [] = [] := rfl

private theorem dropWhile_eq_nil {p : Char → Bool} {s : List Char} :
    s.dropWhile p = [] ↔ ∀ c ∈ s, p c = true := by
  induction s with
  | nil => simp
  | cons c s ih => by_cases h : p c = true <;> simp [h, ih]

private theorem dropWhile_ne_all {p : Char → Bool} {s : List Char}
    (h : ∀ c ∈ s.dropWhile p, p c = true) : s.dropWhile p = [] := by
  induction s with
  | nil => rfl
  | cons c s ih =>
      by_cases hc : p c = true
      · simp only [List.dropWhile_cons, hc, if_true] at h ⊢
        exact ih h
      · simp only [List.dropWhile_cons, hc] at h
        exact absurd (h c (by simp)) hc

/-- Trimming leaves nothing exactly when every character is of the class. -/
theorem trim_eq_nil_iff {p : Char → Bool} {s : List Char} :
    trim p s = [] ↔ ∀ c ∈ s, p c = true := by
  rw [← dropWhile_eq_nil]
  constructor
  · intro h
    have h' : (s.dropWhile p).reverse.dropWhile p = [] := by simpa [trim] using h
    exact dropWhile_ne_all fun c hc => dropWhile_eq_nil.1 h' c (by simpa using hc)
  · intro h
    simp [trim, h]

end AudioLibrary.Text
