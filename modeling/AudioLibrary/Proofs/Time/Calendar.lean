import AudioLibrary.Time.Calendar

/-!
# Days and dates

`Date.toDays_ofDays` and `Date.isValid_ofDays` say that every number of days has a date that exists
and that counts the same number of days.

Within a cycle of 400 years a day is found in two steps.  The year is the one that `yearStart`
brackets the day by; it is enough to look at the first and the last day of each year, because the
quotient that estimates the year never falls.  The month and the day are then a matter of 366 days.
-/

namespace AudioLibrary.Time

/-! ## Years of a cycle -/

/-- The first day of a year, counted in its cycle. -/
def yearStart (y : Int) : Int := 365 * y + y / 4 - y / 100 + y / 400

/-- The days of a cycle up to a day, without the leap days before it. -/
def plainDays (day : Int) : Int := day - day / 1460 + day / 36524 - day / 146096

theorem plainDays_mono {a b : Int} (h : a ≤ b) : plainDays a ≤ plainDays b := by
  unfold plainDays
  omega

set_option maxRecDepth 10000 in
/-- The first and the last day of each year count as days of that year. -/
theorem plainDays_yearStart : ∀ y < 400, 365 * (y : Nat) ≤ plainDays (yearStart y) ∧
    plainDays (yearStart (y + 1) - 1) ≤ 365 * y + 364 := by
  decide

/-- The year of a cycle that a day falls in. -/
def yearOf (day : Int) : Int := plainDays day / 365

theorem yearOf_bounds {day : Int} (hnonneg : 0 ≤ day) (hlt : day < 146097) :
    0 ≤ yearOf day ∧ yearOf day < 400 := by
  unfold yearOf plainDays
  omega

/-- The year of a day starts no later and ends no earlier. -/
theorem yearStart_yearOf {day : Int} (hnonneg : 0 ≤ day) (hlt : day < 146097) :
    yearStart (yearOf day) ≤ day ∧ day < yearStart (yearOf day + 1) := by
  obtain ⟨hyear, hyear'⟩ := yearOf_bounds hnonneg hlt
  obtain ⟨y, hy⟩ := Int.eq_ofNat_of_zero_le hyear
  have hdiv : 365 * yearOf day ≤ plainDays day ∧ plainDays day < 365 * yearOf day + 365 := by
    unfold yearOf
    omega
  rw [hy] at hyear' hdiv ⊢
  constructor
  · -- a day before the year would count for the year before
    refine Int.not_lt.1 fun hbefore => ?_
    cases y with
    | zero => exact absurd hbefore (Int.not_lt.2 hnonneg)
    | succ y =>
        have hlast := (plainDays_yearStart y (by omega)).2
        have hmono := plainDays_mono (Int.le_sub_one_of_lt hbefore)
        have hcast : ((y + 1 : Nat) : Int) = (y : Int) + 1 := rfl
        rw [hcast] at hmono hdiv
        omega
  · -- a day after the year would count for the year after
    refine Int.not_le.1 fun hafter => ?_
    have hmono := plainDays_mono hafter
    rcases Nat.lt_or_ge (y + 1) 400 with hnext | hnext
    · have hfirst := (plainDays_yearStart (y + 1) hnext).1
      have hcast : ((y + 1 : Nat) : Int) = (y : Int) + 1 := rfl
      rw [hcast] at hfirst
      omega
    · have hlast : yearStart ((y : Int) + 1) = 146097 := by
        obtain rfl : y = 399 := by omega
        rfl
      omega

/-- A year has 365 days, or 366 if the leap day ends it. -/
theorem yearStart_succ (y : Int) :
    yearStart (y + 1) ≤ yearStart y + 365 ∨
      (yearStart (y + 1) = yearStart y + 366 ∧ isLeapYear (y + 1) = true) := by
  by_cases hlong : yearStart (y + 1) ≤ yearStart y + 365
  · exact Or.inl hlong
  · refine Or.inr ?_
    unfold isLeapYear yearStart at *
    simp only [Bool.and_eq_true, Bool.or_eq_true, beq_iff_eq, bne_iff_ne]
    omega

/-- The days since a year began; only a leap day is the 366th. -/
theorem exists_dayOfYear {day : Int} (hnonneg : 0 ≤ day) (hlt : day < 146097) :
    ∃ n : Nat, n < 366 ∧ day - yearStart (yearOf day) = n ∧
      (n = 365 → isLeapYear (yearOf day + 1) = true) := by
  obtain ⟨hstart, hend⟩ := yearStart_yearOf hnonneg hlt
  obtain ⟨n, hn⟩ := Int.eq_ofNat_of_zero_le (Int.sub_nonneg_of_le hstart)
  refine ⟨n, ?_, hn, ?_⟩
  · rcases yearStart_succ (yearOf day) with hshort | ⟨hlong, -⟩ <;> omega
  · intro hlast
    rcases yearStart_succ (yearOf day) with hshort | ⟨-, hleap⟩
    · omega
    · exact hleap

/-- Leap years come alike in every cycle. -/
theorem isLeapYear_add_cycles (year cycle : Int) :
    isLeapYear (year + cycle * 400) = isLeapYear year := by
  unfold isLeapYear
  have hfour : (year + cycle * 400) % 4 = year % 4 := by omega
  have hhundred : (year + cycle * 400) % 100 = year % 100 := by omega
  have hcycle : (year + cycle * 400) % 400 = year % 400 := by omega
  rw [hfour, hhundred, hcycle]

/-! ## Months and days -/

/-- The month and the day of the month, from the days since March began. -/
def monthDay (dayOfYear : Int) : Nat × Nat :=
  let monthFromMarch := (5 * dayOfYear + 2) / 153
  let day := dayOfYear - (153 * monthFromMarch + 2) / 5 + 1
  ((if monthFromMarch < 10 then monthFromMarch + 3 else monthFromMarch - 9).toNat, day.toNat)

/-- The days of a month in a year with a leap day. -/
def longestMonth (month : Nat) : Nat :=
  if month = 2 then 29 else if month = 4 ∨ month = 6 ∨ month = 9 ∨ month = 11 then 30 else 31

set_option maxRecDepth 10000 in
theorem monthDay_table : ∀ n < 366,
    let d := monthDay (n : Nat)
    (1 ≤ d.1 ∧ d.1 ≤ 12 ∧ 1 ≤ d.2 ∧ d.2 ≤ longestMonth d.1) ∧
      (d.1 = 2 → d.2 = 29 → n = 365) ∧
      (153 * (((d.1 : Int) + 9) % 12) + 2) / 5 + d.2 - 1 = n := by
  decide

namespace Date

/-- The parts of the date of a day. -/
theorem ofDays_eq (days : Int) :
    let day := (days + 719468) % 146097
    let year := yearOf day + (days + 719468) / 146097 * 400
    let d := monthDay (day - yearStart (yearOf day))
    ofDays days = ⟨if d.1 ≤ 2 then year + 1 else year, d.1, d.2⟩ := by
  intro day year d
  have hyear : 0 ≤ yearOf day ∧ yearOf day < 400 :=
    yearOf_bounds (Int.emod_nonneg _ (by decide)) (Int.emod_lt_of_pos _ (by decide))
  have hstart : yearStart (yearOf day) = 365 * yearOf day + yearOf day / 4 - yearOf day / 100 := by
    unfold yearStart
    omega
  have hd : d = monthDay (day - (365 * yearOf day + yearOf day / 4 - yearOf day / 100)) := by
    rw [← hstart]
  have hmonth : ∀ month : Int, (month ≤ 2 ↔ month.toNat ≤ 2) := by
    intro month
    omega
  rw [hd]
  unfold ofDays
  simp only [hmonth]
  rfl

/-- Days are counted as their dates are. -/
theorem toDays_ofDays (days : Int) : (ofDays days).toDays = days := by
  have hnonneg : 0 ≤ (days + 719468) % 146097 := Int.emod_nonneg _ (by decide)
  have hlt : (days + 719468) % 146097 < 146097 := Int.emod_lt_of_pos _ (by decide)
  have hdays := Int.mul_ediv_add_emod (days + 719468) 146097
  obtain ⟨hyear, hyear'⟩ := yearOf_bounds hnonneg hlt
  obtain ⟨n, hn, hday, -⟩ := exists_dayOfYear hnonneg hlt
  obtain ⟨-, -, hcount⟩ := monthDay_table n hn
  rw [ofDays_eq, hday]
  unfold toDays
  dsimp only
  rw [hcount]
  have hfrom : ∀ year : Int, (if (monthDay n).1 ≤ 2 then
      (if (monthDay n).1 ≤ 2 then year + 1 else year) - 1 else
        if (monthDay n).1 ≤ 2 then year + 1 else year) = year := by
    intro year
    split <;> omega
  have hcycle : ∀ year cycle : Int, 0 ≤ year → year < 400 →
      (year + cycle * 400) / 400 = cycle ∧ (year + cycle * 400) % 400 = year := by
    intro year cycle hnonneg hlt
    omega
  obtain ⟨hquotient, hremainder⟩ := hcycle _ ((days + 719468) / 146097) hyear hyear'
  rw [hfrom, hquotient, hremainder]
  unfold yearStart at hday
  omega

/-- Every number of days has a date that exists. -/
theorem isValid_ofDays (days : Int) : (ofDays days).isValid = true := by
  have hnonneg : 0 ≤ (days + 719468) % 146097 := Int.emod_nonneg _ (by decide)
  have hlt : (days + 719468) % 146097 < 146097 := Int.emod_lt_of_pos _ (by decide)
  obtain ⟨n, hn, hday, hleap⟩ := exists_dayOfYear hnonneg hlt
  obtain ⟨⟨hmonth, hmonth', hfirst, hlast⟩, hlate, -⟩ := monthDay_table n hn
  rw [ofDays_eq, hday]
  unfold isValid
  simp only [Bool.and_eq_true, decide_eq_true_eq]
  refine ⟨⟨⟨hmonth, hmonth'⟩, hfirst⟩, ?_⟩
  unfold longestMonth at hlast
  unfold daysInMonth
  by_cases hfebruary : (monthDay n).1 = 2
  · rw [if_pos hfebruary] at hlast
    rw [if_pos hfebruary, if_pos (Nat.le_of_eq hfebruary)]
    split
    · exact hlast
    · next hcommon =>
        -- the 29th is the last day of the year, so the year is a leap year
        refine Nat.le_of_lt_succ (Nat.lt_of_le_of_ne hlast fun hday => hcommon ?_)
        have hyear := hleap (hlate hfebruary hday)
        rw [Int.add_right_comm, isLeapYear_add_cycles]
        exact hyear
  · rw [if_neg hfebruary] at hlast ⊢
    exact hlast

end Date

end AudioLibrary.Time
