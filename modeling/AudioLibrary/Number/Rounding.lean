import AudioLibrary.Number.Power

/-!
# Rounding quotients of naturals

`roundHalfEven` and `roundHalfUp` round a quotient to a neighbouring natural;
`binaryExponent` and `decimalExponent` find the power of two or ten just below a quotient.
-/

namespace AudioLibrary.Number

/-- The natural nearest to `num / den`; a half goes to the even neighbour. -/
def roundHalfEven (num den : Nat) : Nat :=
  let q := num / den
  let r := num % den
  if den < 2 * r ∨ (2 * r = den ∧ q % 2 = 1) then q + 1 else q

/-- The natural nearest to `num / den`; a half goes up. -/
def roundHalfUp (num den : Nat) : Nat := (2 * num + den) / (2 * den)

/-- `num / den * base ^ e`, as a numerator and a denominator. -/
def scale (base : Nat) (e : Int) (num den : Nat) : Nat × Nat :=
  if 0 ≤ e then (num * base ^ e.toNat, den) else (num, den * base ^ (-e).toNat)

/-- The greatest `e` with `2 ^ e ≤ num / den`. -/
def binaryExponent (num den : Nat) : Int :=
  let e : Int := num.log2 - den.log2
  let (n, d) := scale 2 (-e) num den
  if d ≤ n then e else e - 1

/-- How many decimal digits a natural has. -/
def digitCount (n : Nat) : Nat := (Nat.toDigits 10 n).length

/-- The greatest `e` with `10 ^ e ≤ num / den`. -/
def decimalExponent (num den : Nat) : Int :=
  if den ≤ num then (digitCount (num / den) : Int) - 1
  else -(digitCount ((den - 1) / num) : Int)

/-- The quotient lies at most half a unit from what it is rounded to. -/
theorem roundHalfEven_le (num den : Nat) (h : 0 < den) :
    2 * (roundHalfEven num den * den) ≤ 2 * num + den := by
  have hdiv := Nat.div_add_mod num den
  have hmod := Nat.mod_lt num h
  unfold roundHalfEven
  simp only []
  split
  · rw [Nat.add_mul, Nat.mul_comm (num / den) den]; omega
  · rw [Nat.mul_comm (num / den) den]; omega

/-- What a quotient is rounded to lies at most half a unit from it. -/
theorem le_roundHalfEven (num den : Nat) (h : 0 < den) :
    2 * num ≤ 2 * (roundHalfEven num den * den) + den := by
  have hdiv := Nat.div_add_mod num den
  have hmod := Nat.mod_lt num h
  unfold roundHalfEven
  simp only []
  split
  · rw [Nat.add_mul, Nat.mul_comm (num / den) den]; omega
  · rw [Nat.mul_comm (num / den) den]; omega

end AudioLibrary.Number
