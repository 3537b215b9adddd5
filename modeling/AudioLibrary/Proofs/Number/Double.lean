import AudioLibrary.Number.Double

/-!
# The order of floating point numbers

All finite doubles are multiples of `2 ^ -1074`.  Counted in that unit a number is an integer,
`scaled`, and infinity may be counted as the first multiple beyond them.  Both comparisons of a
double are then comparisons of integers: `compare?` looks at the bits of the magnitudes, which are
ordered as their weights are, and `compareInt?` multiplies out.

## Main statements

* `weight_lt_weight` : weights are ordered as magnitudes are.
* `compare?_eq`, `compareInt?_eq` : comparing is comparing `scaled`.
-/

namespace AudioLibrary.Number

/-- Two pairs of integers that are ordered alike compare alike. -/
theorem compare_eq_compare {a b c d : Int} (hlt : a < b ↔ c < d) (hgt : b < a ↔ d < c) :
    compare a b = compare c d := by
  show compareOfLessAndEq a b = compareOfLessAndEq c d
  unfold compareOfLessAndEq
  by_cases hab : a < b
  · rw [if_pos hab, if_pos (hlt.1 hab)]
  · have hcd : ¬ c < d := fun h => hab (hlt.2 h)
    rw [if_neg hab, if_neg hcd]
    by_cases heq : a = b
    · have hcd' : c = d := by
        have hle : ¬ d < c := fun h => by
          have := hgt.2 h
          omega
        omega
      rw [if_pos heq, if_pos hcd']
    · have hne : c ≠ d := fun h => by
        have hdc : d < c := hgt.1 (by omega)
        omega
      rw [if_neg heq, if_neg hne]

/-- Multiplying by a positive number does not change an order. -/
theorem compare_mul_right (a b : Int) {k : Int} (hk : 0 < k) :
    compare (a * k) (b * k) = compare a b :=
  compare_eq_compare (Int.mul_lt_mul_right hk) (Int.mul_lt_mul_right hk)

namespace Double

/-- A magnitude counted in units of `2 ^ -1074`. -/
def weight (m : Nat) : Nat :=
  (m % 2 ^ 52 + if m / 2 ^ 52 = 0 then 0 else 2 ^ 52) * 2 ^ (m / 2 ^ 52 - 1)

/-- How many units one is. -/
def unitsPerOne : Nat := 2 ^ 1074

theorem unitsPerOne_pos : 0 < unitsPerOne := by
  unfold unitsPerOne
  exact Nat.two_pow_pos 1074

/-- A number counted in units of `2 ^ -1074`. -/
def scaled (x : Double) : Int :=
  if x.isNegative then -(weight x.magnitude : Int) else weight x.magnitude

theorem weight_lt_weight {m n : Nat} (h : m < n) : weight m < weight n := by
  have hm := Nat.div_add_mod m (2 ^ 52)
  have hn := Nat.div_add_mod n (2 ^ 52)
  have hmr := Nat.mod_lt m (Nat.two_pow_pos 52)
  have hnr := Nat.mod_lt n (Nat.two_pow_pos 52)
  have hfield : m / 2 ^ 52 ≤ n / 2 ^ 52 := Nat.div_le_div_right (Nat.le_of_lt h)
  unfold weight
  rcases Nat.lt_or_eq_of_le hfield with hlt | heq
  · -- the greatest weight of a field lies below the least of the next
    rw [if_neg (show ¬ n / 2 ^ 52 = 0 by omega)]
    calc (m % 2 ^ 52 + if m / 2 ^ 52 = 0 then 0 else 2 ^ 52) * 2 ^ (m / 2 ^ 52 - 1)
        < 2 ^ 52 * 2 ^ (m / 2 ^ 52) := by
          by_cases hzero : m / 2 ^ 52 = 0
          · rw [if_pos hzero, hzero]
            omega
          · have hstep : 2 ^ (m / 2 ^ 52) = 2 * 2 ^ (m / 2 ^ 52 - 1) := by
              rw [← Nat.pow_succ', Nat.succ_eq_add_one, Nat.sub_add_cancel (by omega)]
            rw [if_neg hzero, hstep, ← Nat.mul_assoc]
            exact Nat.mul_lt_mul_of_pos_right (by omega) (Nat.two_pow_pos _)
      _ ≤ 2 ^ 52 * 2 ^ (n / 2 ^ 52 - 1) :=
          Nat.mul_le_mul_left _ (Nat.pow_le_pow_right (by omega) (by omega))
      _ ≤ (n % 2 ^ 52 + 2 ^ 52) * 2 ^ (n / 2 ^ 52 - 1) :=
          Nat.mul_le_mul_right _ (Nat.le_add_left _ _)
  · rw [heq]
    refine Nat.mul_lt_mul_of_pos_right ?_ (Nat.two_pow_pos _)
    rw [heq] at hm
    omega

theorem weight_lt_weight_iff {m n : Nat} : weight m < weight n ↔ m < n := by
  constructor
  · intro h
    rcases Nat.lt_trichotomy m n with hlt | rfl | hgt
    · exact hlt
    · omega
    · have := weight_lt_weight hgt
      omega
  · exact weight_lt_weight

theorem weight_zero : weight 0 = 0 := rfl

/-- Comparing two numbers by value. -/
theorem compare?_eq {x y : Double} (hx : x.equalsItself = true) (hy : y.equalsItself = true) :
    x.compare? y = some (compare x.scaled y.scaled) := by
  have hxn : x.isNaN = false := by simpa [equalsItself] using hx
  have hyn : y.isNaN = false := by simpa [equalsItself] using hy
  have hzero : weight 0 = 0 := weight_zero
  have hxy := weight_lt_weight_iff (m := x.magnitude) (n := y.magnitude)
  have hyx := weight_lt_weight_iff (m := y.magnitude) (n := x.magnitude)
  have hx0 := weight_lt_weight_iff (m := 0) (n := x.magnitude)
  have hy0 := weight_lt_weight_iff (m := 0) (n := y.magnitude)
  unfold compare?
  rw [if_neg (by simp [hxn, hyn])]
  refine congrArg some (compare_eq_compare ?_ ?_)
  · dsimp only [scaled]
    split <;> split <;> omega
  · dsimp only [scaled]
    split <;> split <;> omega

/-! ## Numbers and integers -/

/-- A finite weight is the significand times a power of two. -/
theorem weight_magnitude (x : Double) :
    weight x.magnitude = x.significand * 2 ^ (x.unitExponent + 1074).toNat := by
  have hexponent : (x.unitExponent + 1074).toNat = x.magnitude / 2 ^ 52 - 1 := by
    unfold unitExponent
    dsimp only
    split <;> omega
  rw [hexponent]
  rfl

theorem unitExponent_ge (x : Double) : -1074 ≤ x.unitExponent := by
  unfold unitExponent
  dsimp only
  split <;> omega

/-- A number as a quotient with its denominator. -/
theorem scaled_mul_ratio (x : Double) :
    0 < x.ratio.2 ∧ weight x.magnitude * x.ratio.2 = x.ratio.1 * unitsPerOne := by
  have hge := x.unitExponent_ge
  rw [weight_magnitude]
  unfold ratio scale
  by_cases h : 0 ≤ x.unitExponent
  · have hsum : (x.unitExponent + 1074).toNat = x.unitExponent.toNat + 1074 := by omega
    rw [if_pos h, hsum, Nat.pow_add]
    exact ⟨Nat.one_pos, by rw [Nat.mul_one, Nat.mul_assoc, unitsPerOne]⟩
  · have hsum : 1074 = (x.unitExponent + 1074).toNat + (-x.unitExponent).toNat := by omega
    rw [if_neg h]
    refine ⟨by rw [Nat.one_mul]; exact Nat.two_pow_pos _, ?_⟩
    show _ * (1 * 2 ^ (-x.unitExponent).toNat) = x.significand * unitsPerOne
    rw [Nat.one_mul, Nat.mul_assoc, ← Nat.pow_add, ← hsum, unitsPerOne]

theorem two_pow_mul_lt (a b c d : Nat) (h : a + b < c + d) : 2 ^ a * 2 ^ b < 2 ^ c * 2 ^ d := by
  rw [← Nat.pow_add, ← Nat.pow_add]
  exact Nat.pow_lt_pow_right Nat.one_lt_two h

/-- Infinity lies beyond every 64-bit integer. -/
theorem natAbs_mul_lt_weight_infiniteMagnitude {i : Int} (hi : i.natAbs ≤ 2 ^ 63) :
    i.natAbs * unitsPerOne < weight infiniteMagnitude := by
  have hfraction : infiniteMagnitude % 2 ^ 52 = 0 := by decide
  have hfield : infiniteMagnitude / 2 ^ 52 = 2046 + 1 := by decide
  have hweight : weight infiniteMagnitude = 2 ^ 52 * 2 ^ 2046 := by
    rw [weight, hfraction, hfield, if_neg (Nat.succ_ne_zero _), Nat.zero_add,
      Nat.add_sub_cancel]
  calc i.natAbs * unitsPerOne ≤ 2 ^ 63 * unitsPerOne := Nat.mul_le_mul_right _ hi
    _ = 2 ^ 63 * 2 ^ 1074 := congrArg (2 ^ 63 * ·) unitsPerOne.eq_def
    _ < 2 ^ 52 * 2 ^ 2046 := two_pow_mul_lt 63 1074 52 2046 (by decide)
    _ = weight infiniteMagnitude := hweight.symm

/-- Comparing a number with an integer by value. -/
theorem compareInt?_eq {x : Double} (hx : x.equalsItself = true) {i : Int}
    (hi : i.natAbs ≤ 2 ^ 63) :
    x.compareInt? i = some (compare x.scaled (i * unitsPerOne)) := by
  have hnan : x.isNaN = false := by simpa [equalsItself] using hx
  unfold compareInt?
  rw [if_neg (by simp [hnan])]
  -- an infinity is compared by its sign, and no 64-bit integer is beyond it
  by_cases hinf : x.isInfinite = true
  · have hmagnitude : x.magnitude = infiniteMagnitude := by simpa [isInfinite] using hinf
    have hbeyond := natAbs_mul_lt_weight_infiniteMagnitude hi
    have habs : (i * unitsPerOne).natAbs = i.natAbs * unitsPerOne := by
      rw [Int.natAbs_mul, Int.natAbs_natCast]
    rw [← habs] at hbeyond
    rw [if_pos hinf]
    unfold scaled
    rw [hmagnitude]
    generalize i * (unitsPerOne : Int) = n at hbeyond ⊢
    split
    · exact congrArg some (Int.compare_eq_lt.2 (by omega)).symm
    · exact congrArg some (Int.compare_eq_gt.2 (by omega)).symm
  · obtain ⟨hpos, heq⟩ := x.scaled_mul_ratio
    have hratio : (x.toRatio.1 : Int) * unitsPerOne = x.scaled * x.ratio.2 := by
      have heq : (weight x.magnitude : Int) * x.ratio.2 = x.ratio.1 * unitsPerOne := by
        exact_mod_cast heq
      unfold toRatio scaled
      dsimp only
      split
      · rw [Int.neg_mul, Int.neg_mul, heq]
      · exact heq.symm
    have hden : x.toRatio.2 = x.ratio.2 := rfl
    rw [if_neg hinf]
    refine congrArg some ?_
    show compare x.toRatio.1 (i * x.toRatio.2) = _
    have hunit : (0 : Int) < unitsPerOne := by exact_mod_cast unitsPerOne_pos
    have hden' : (0 : Int) < x.ratio.2 := by exact_mod_cast hpos
    calc compare x.toRatio.1 (i * x.toRatio.2)
        = compare (x.toRatio.1 * unitsPerOne) (i * x.toRatio.2 * unitsPerOne) :=
          (compare_mul_right _ _ hunit).symm
      _ = compare (x.scaled * x.ratio.2) (i * unitsPerOne * x.ratio.2) := by
          rw [hratio, hden, Int.mul_right_comm]
      _ = compare x.scaled (i * unitsPerOne) := compare_mul_right _ _ hden'

end Double

end AudioLibrary.Number
