import AudioLibrary.Proofs.Time.Calendar
import AudioLibrary.Time.Timestamp
import Mathlib.Tactic.SplitIfs

/-!
# Timestamps, written and read

`Timestamp.parse?_print` : an instant is read back from its written form.  This holds of the
instants that a clock may give, `Instant.IsProper`: they lie in the range of years, and only the
last second of a minute may be a leap second.  What is read from a text is always one of these,
`Timestamp.isProper_of_parse?`.
-/

namespace AudioLibrary.Time

/-- The instants there are. -/
structure Instant.IsProper (t : Instant) : Prop where
  nanos_lt : t.nanos < 2000000000
  /-- The nanoseconds run on only after the last second of a minute. -/
  leap : 1000000000 ≤ t.nanos → t.seconds % 60 = 59
  inRange : t.inRange = true

instance (t : Instant) : Decidable t.IsProper :=
  decidable_of_iff
    (t.nanos < 2000000000 ∧ (1000000000 ≤ t.nanos → t.seconds % 60 = 59) ∧ t.inRange = true)
    ⟨fun ⟨hnanos, hleap, hrange⟩ => ⟨hnanos, hleap, hrange⟩,
      fun h => ⟨h.nanos_lt, h.leap, h.inRange⟩⟩

namespace Timestamp

open AudioLibrary.Text

/-! ## Numbers of a fixed width -/

theorem isDigit_of_mem_padded {width n : Nat} {c : Char} (hc : c ∈ padded width n) :
    c.isDigit = true := by
  rcases List.mem_append.1 hc with hc | hc
  · rw [List.eq_of_mem_replicate hc]
    rfl
  · exact Nat.isDigit_of_mem_toDigits (by decide) (by decide) hc

theorem ofDigitChars_padded (width n : Nat) : Nat.ofDigitChars 10 (padded width n) 0 = n := by
  unfold padded
  rw [Nat.ofDigitChars_append, Nat.ofDigitChars_replicate_zero, Nat.mul_zero,
    Nat.ofDigitChars_ten_toDigits]

theorem padded_ne_nil (width n : Nat) : padded width n ≠ [] :=
  List.append_ne_nil_of_right_ne_nil _ Nat.toDigits_ne_nil

theorem length_padded {width n : Nat} (hwidth : 0 < width) (hn : n < 10 ^ width) :
    (padded width n).length = width := by
  have hle := (Nat.length_toDigits_le_iff (by decide) hwidth).2 hn
  unfold padded
  rw [List.length_append, List.length_replicate]
  omega

theorem takeWhile_padded_append (width n : Nat) (rest : List Char)
    (hrest : ∀ c ∈ rest.head?, c.isDigit = false) :
    (padded width n ++ rest).takeWhile Char.isDigit = padded width n := by
  have hnone : rest.takeWhile Char.isDigit = [] := by
    cases rest with
    | nil => rfl
    | cons c rest => rw [List.takeWhile_cons_of_neg (by simp [hrest c rfl])]
  rw [List.takeWhile_append_of_pos fun c hc => isDigit_of_mem_padded hc, hnone, List.append_nil]

/-- A number of a fixed width is read back, whatever follows it. -/
theorem digits?_padded {width n : Nat} (hwidth : 0 < width) (hn : n < 10 ^ width)
    (rest : List Char) : digits? width (padded width n ++ rest) = some (n, rest) := by
  have hlength := length_padded hwidth hn
  have htake : ((padded width n ++ rest).take width).takeWhile Char.isDigit = padded width n := by
    rw [List.take_left' hlength]
    have hwhole := takeWhile_padded_append width n [] nofun
    rwa [List.append_nil] at hwhole
  unfold digits?
  rw [htake]
  split
  · next hnil => exact absurd hnil (padded_ne_nil width n)
  · rw [ofDigitChars_padded, List.drop_left' rfl]

/-- A number of any width is read back up to what is no digit. -/
theorem digits?_length_padded (width n : Nat) {rest : List Char}
    (hrest : ∀ c ∈ rest.head?, c.isDigit = false) :
    digits? (padded width n ++ rest).length (padded width n ++ rest) = some (n, rest) := by
  unfold digits?
  rw [List.take_length, takeWhile_padded_append width n rest hrest]
  split
  · next hnil => exact absurd hnil (padded_ne_nil width n)
  · rw [ofDigitChars_padded, List.drop_left' rfl]

/-! ## Blanks -/

theorem not_isBlank_of_isDigit {c : Char} (hc : c.isDigit = true) : isBlank c = false := by
  have hbounds : 48 ≤ c.toNat ∧ c.toNat ≤ 57 := by
    simpa [Char.isDigit, UInt32.le_iff_toNat_le] using hc
  unfold isBlank
  simp only [Bool.or_eq_false_iff, Bool.and_eq_false_iff, decide_eq_false_iff_not,
    beq_eq_false_iff_ne]
  omega

theorem skipBlanks_cons {c : Char} (hc : isBlank c = false) (cs : List Char) :
    skipBlanks (c :: cs) = c :: cs := by
  unfold skipBlanks
  rw [List.dropWhile_cons_of_neg (by simp [hc])]

theorem skipBlanks_padded_append (width n : Nat) (rest : List Char) :
    skipBlanks (padded width n ++ rest) = padded width n ++ rest := by
  obtain ⟨c, cs, heq⟩ := List.exists_cons_of_ne_nil (padded_ne_nil width n)
  have hc : c.isDigit = true := isDigit_of_mem_padded (heq ▸ List.mem_cons_self)
  rw [heq, List.cons_append, skipBlanks_cons (not_isBlank_of_isDigit hc)]

theorem pair?_padded {n : Nat} (hn : n < 100) (rest : List Char) :
    pair? (padded 2 n ++ rest) = some (n, rest) := by
  unfold pair?
  rw [skipBlanks_padded_append]
  exact digits?_padded (by decide) hn rest

/-! ## Dates -/

theorem year?_minus (cs : List Char) :
    year? ('-' :: cs) = (digits? cs.length cs).map fun (n, rest) => (-(n : Int), rest) := rfl

theorem year?_plus (cs : List Char) :
    year? ('+' :: cs) = (digits? cs.length cs).map fun (n, rest) => ((n : Int), rest) := rfl

theorem year?_of_isDigit {c : Char} (hc : c.isDigit = true) (cs : List Char) :
    year? (c :: cs) = (digits? 4 (c :: cs)).map fun (n, rest) => ((n : Int), rest) := by
  unfold year?
  rw [skipBlanks_cons (not_isBlank_of_isDigit hc)]
  split
  · next heq => exact absurd ((List.cons.inj heq).1 ▸ hc) (by decide)
  · next heq => exact absurd ((List.cons.inj heq).1 ▸ hc) (by decide)
  · rfl

theorem year?_printYear (year : Int) (rest : List Char)
    (hrest : ∀ c ∈ rest.head?, c.isDigit = false) :
    year? (printYear year ++ rest) = some (year, rest) := by
  have hdigits := digits?_length_padded 4 year.natAbs hrest
  unfold printYear
  split
  · next hnegative =>
      have hvalue : -(year.natAbs : Int) = year := by omega
      rw [List.cons_append, year?_minus, hdigits, Option.map_some]
      exact congrArg (fun y => some (y, rest)) hvalue
  · next hnonneg =>
      have hvalue : (year.natAbs : Int) = year := by omega
      split
      · next hsmall =>
          obtain ⟨c, cs, heq⟩ := List.exists_cons_of_ne_nil (padded_ne_nil 4 year.natAbs)
          have hc : c.isDigit = true := isDigit_of_mem_padded (heq ▸ List.mem_cons_self)
          have hread := digits?_padded (Nat.succ_pos 3) (by omega : year.natAbs < 10 ^ 4) rest
          rw [heq, List.cons_append] at hread ⊢
          rw [year?_of_isDigit hc, hread, Option.map_some]
          exact congrArg (fun y => some (y, rest)) hvalue
      · rw [List.cons_append, year?_plus, hdigits, Option.map_some]
        exact congrArg (fun y => some (y, rest)) hvalue

theorem mark?_cons {c : Char} (hc : isBlank c = false) (cs : List Char) :
    mark? c (c :: cs) = some cs := by
  unfold mark?
  rw [skipBlanks_cons hc]
  exact if_pos rfl

/-- The bounds of the months and days of a date that exists. -/
theorem lt_of_isValid {d : Date} (hd : d.isValid = true) : d.month < 100 ∧ d.day < 100 := by
  unfold Date.isValid daysInMonth at hd
  simp only [Bool.and_eq_true, decide_eq_true_eq] at hd
  obtain ⟨⟨⟨-, hmonth⟩, -⟩, hday⟩ := hd
  refine ⟨by omega, ?_⟩
  split_ifs at hday <;> omega

/-- A date in the range of years is read back. -/
theorem date?_printDate {d : Date} (hd : d.isValid = true) (hfirst : Instant.yearRange.1 ≤ d.year)
    (hlast : d.year ≤ Instant.yearRange.2) (rest : List Char) :
    date? (printDate d ++ rest) = some (d, rest) := by
  obtain ⟨hmonth, hday⟩ := lt_of_isValid hd
  have hyear := year?_printYear d.year
    ('-' :: (padded 2 d.month ++ '-' :: (padded 2 d.day ++ rest)))
    (by rintro c hc; obtain rfl : '-' = c := Option.some.inj hc; rfl)
  have hprint : printDate d ++ rest =
      printYear d.year ++ '-' :: (padded 2 d.month ++ '-' :: (padded 2 d.day ++ rest)) := by
    unfold printDate
    simp only [List.append_assoc, List.cons_append]
  unfold date?
  rw [hprint, hyear]
  simp only [Option.bind_eq_bind, Option.bind_some, mark?_cons (by decide : isBlank '-' = false),
    pair?_padded hmonth, pair?_padded hday, hd, hfirst, hlast, decide_true, Bool.and_self, if_true]
  rfl

/-! ## Times of the day -/

theorem hour_lt (t : Instant) : t.hour < 24 := by
  unfold Instant.hour Instant.secondOfDay
  omega

theorem minute_lt (t : Instant) : t.minute < 60 := by
  unfold Instant.minute
  omega

/-- The parts of the second of the day. -/
theorem secondOfDay_eq (t : Instant) :
    t.hour * 3600 + t.minute * 60 + t.secondOfDay % 60 = t.secondOfDay := by
  unfold Instant.hour Instant.minute
  omega

/-- The digits after the point. -/
theorem nanos?_point {cs ds : List Char} (hds : cs.takeWhile Char.isDigit = ds) (hne : ds ≠ []) :
    nanos? ('.' :: cs) =
      some (Nat.ofDigitChars 10 (ds.take 9) 0 * 10 ^ (9 - (ds.take 9).length),
        cs.drop ds.length) := by
  unfold nanos?
  split
  · next rest heq =>
      obtain rfl := (List.cons.inj heq).2
      rw [hds]
      split
      · exact absurd rfl hne
      · rfl
  · next hother => exact absurd rfl (hother cs)

theorem nanos?_padded {width n : Nat} (hwidth : 0 < width) (hle : width ≤ 9)
    (hn : n < 10 ^ width) {rest : List Char} (hrest : ∀ c ∈ rest.head?, c.isDigit = false) :
    nanos? ('.' :: (padded width n ++ rest)) = some (n * 10 ^ (9 - width), rest) := by
  have hlength := length_padded hwidth hn
  rw [nanos?_point (takeWhile_padded_append width n rest hrest) (padded_ne_nil width n),
    List.take_of_length_le (by omega), ofDigitChars_padded, hlength, List.drop_left' hlength]

/-- A fraction of a second is read back. -/
theorem nanos?_printFraction {n : Nat} (hn : n < 1000000000) {rest : List Char}
    (hrest : ∀ c ∈ rest.head?, c.isDigit = false ∧ c ≠ '.') :
    nanos? (printFraction n ++ rest) = some (n, rest) := by
  have hdigit : ∀ c ∈ rest.head?, c.isDigit = false := fun c hc => (hrest c hc).1
  unfold printFraction
  split_ifs with hzero hmillis hmicros
  · subst hzero
    rw [List.nil_append]
    unfold nanos?
    split
    · next heq => exact absurd rfl (hrest '.' rfl).2
    · rfl
  · have hvalue : n / 1000000 * 10 ^ (9 - 3) = n := by omega
    rw [List.cons_append, nanos?_padded (by decide) (by decide) (by omega) hdigit, hvalue]
  · have hvalue : n / 1000 * 10 ^ (9 - 6) = n := by omega
    rw [List.cons_append, nanos?_padded (by decide) (by decide) (by omega) hdigit, hvalue]
  · have hvalue : n * 10 ^ (9 - 9) = n := by omega
    rw [List.cons_append, nanos?_padded (by decide) (by decide) (by omega) hdigit, hvalue]

/-- A time of the day is read back, a leap second too. -/
theorem time?_printTime {t : Instant} (ht : t.IsProper) (rest : List Char)
    (hrest : ∀ c ∈ rest.head?, c.isDigit = false ∧ c ≠ '.') :
    time? (printTime t ++ printFraction t.fraction ++ rest) =
      some ((t.secondOfDay, t.nanos), rest) := by
  have hsecond : t.second < 100 := by
    unfold Instant.second
    split <;> omega
  have hfraction : t.fraction < 1000000000 := Nat.mod_lt _ (by decide)
  have hprint : printTime t ++ printFraction t.fraction ++ rest =
      padded 2 t.hour ++ ':' :: (padded 2 t.minute ++ ':' :: (padded 2 t.second ++
        (printFraction t.fraction ++ rest))) := by
    unfold printTime
    simp only [List.append_assoc, List.cons_append]
  have hhour := hour_lt t
  have hminute := minute_lt t
  unfold time?
  rw [hprint]
  simp only [Option.bind_eq_bind, Option.bind_some, mark?_cons (by decide : isBlank ':' = false),
    pair?_padded (Nat.lt_trans hhour (by decide)), pair?_padded (Nat.lt_trans hminute (by decide)),
    pair?_padded hsecond, nanos?_printFraction hfraction hrest]
  have hparts := secondOfDay_eq t
  have hday : (t.secondOfDay % 60 : Nat) = (t.seconds % 60).toNat := by
    unfold Instant.secondOfDay
    omega
  unfold Instant.second Instant.fraction
  by_cases hleap : 1000000000 ≤ t.nanos
  · -- a leap second follows second 59
    have hlast : t.secondOfDay % 60 = 59 := by
      rw [hday, ht.leap hleap]
      rfl
    have hnanos := ht.nanos_lt
    rw [if_pos hleap, hlast, if_neg (by omega)]
    have htotal : t.hour * 3600 + t.minute * 60 + 59 = t.secondOfDay := by omega
    have hrest : t.nanos % 1000000000 + 1000000000 = t.nanos := by omega
    simp only [Nat.reduceAdd, beq_self_eq_true, if_true, htotal, hrest]
    rfl
  · have hnot : (t.secondOfDay % 60 + 0 == 60) = false := by
      rw [beq_eq_false_iff_ne]
      omega
    have hwhole : t.nanos % 1000000000 = t.nanos := Nat.mod_eq_of_lt (by omega)
    rw [if_neg hleap, if_neg (by omega), hnot, hwhole]
    simp only [Bool.false_eq_true, if_false, Nat.add_zero, hparts]
    rfl

/-! ## Timestamps -/

/-- **An instant is read back from its written form.** -/
theorem parse?_print {t : Instant} (ht : t.IsProper) : parse? (print t) = some t := by
  have hrange : Instant.yearRange.1 ≤ t.date.year ∧ t.date.year ≤ Instant.yearRange.2 := by
    have hrange := ht.inRange
    unfold Instant.inRange at hrange
    rwa [Bool.and_eq_true, decide_eq_true_eq, decide_eq_true_eq] at hrange
  have hprint : (print t).toList = printDate t.date ++
      'T' :: (printTime t ++ printFraction t.fraction ++ ['Z']) := by
    unfold print
    rw [String.toList_ofList]
    simp only [List.append_assoc, List.cons_append]
  have hvalid : t.date.isValid = true := Date.isValid_ofDays (t.seconds / 86400)
  have hdate := date?_printDate hvalid hrange.1 hrange.2
    ('T' :: (printTime t ++ printFraction t.fraction ++ ['Z']))
  have hseparator : separator? ('T' :: (printTime t ++ printFraction t.fraction ++ ['Z'])) =
      some (printTime t ++ printFraction t.fraction ++ ['Z']) := rfl
  have htime := time?_printTime ht ['Z']
    (by rintro c hc; obtain rfl : 'Z' = c := Option.some.inj hc; decide)
  have hoffset : offset? ['Z'] = some (0, []) := rfl
  have hdays : t.date.toDays = t.seconds / 86400 := Date.toDays_ofDays (t.seconds / 86400)
  have hseconds : t.seconds / 86400 * 86400 + (t.secondOfDay : Int) - 0 = t.seconds := by
    unfold Instant.secondOfDay
    omega
  unfold parse?
  rw [hprint]
  simp only [Option.bind_eq_bind, Option.bind_some, hdate, hseparator, htime, hoffset, hdays,
    hseconds, ht.inRange]
  rfl

/-! ## What is read -/

theorem ofDigitChars_lt {ds : List Char} (hds : ∀ c ∈ ds, c.isDigit = true) (start : Nat) :
    Nat.ofDigitChars 10 ds start < (start + 1) * 10 ^ ds.length := by
  induction ds generalizing start with
  | nil => simp
  | cons c ds ih =>
      have hc : c.toNat - '0'.toNat ≤ 9 := by
        have hbounds := Char.isDigit_iff_toNat.1 (hds c List.mem_cons_self)
        have hnine : '9'.toNat = '0'.toNat + 9 := rfl
        omega
      have htail := ih (fun d hd => hds d (List.mem_cons_of_mem c hd))
        (10 * start + (c.toNat - '0'.toNat))
      rw [Nat.ofDigitChars_cons]
      calc Nat.ofDigitChars 10 ds (10 * start + (c.toNat - '0'.toNat))
        _ < (10 * start + (c.toNat - '0'.toNat) + 1) * 10 ^ ds.length := htail
        _ ≤ ((start + 1) * 10) * 10 ^ ds.length := Nat.mul_le_mul_right _ (by omega)
        _ = (start + 1) * 10 ^ (c :: ds).length := by
            rw [List.length_cons, Nat.pow_succ', Nat.mul_assoc]

theorem nanos?_lt {cs rest : List Char} {n : Nat} (h : nanos? cs = some (n, rest)) :
    n < 1000000000 := by
  unfold nanos? at h
  split at h
  · next cs =>
      split at h
      · cases h
      · -- at most nine digits are kept, and zeros stand for the others
        have hdigits : ∀ c ∈ (cs.takeWhile Char.isDigit).take 9, c.isDigit = true := fun c hc =>
          List.all_eq_true.1 List.all_takeWhile c (List.mem_of_mem_take hc)
        have hlength : ((cs.takeWhile Char.isDigit).take 9).length ≤ 9 := List.length_take_le 9 _
        have hlt := ofDigitChars_lt hdigits 0
        obtain rfl := congrArg Prod.fst (Option.some.inj h)
        generalize (cs.takeWhile Char.isDigit).take 9 = kept at hlength hlt
        calc Nat.ofDigitChars 10 kept 0 * 10 ^ (9 - kept.length)
          _ < (0 + 1) * 10 ^ kept.length * 10 ^ (9 - kept.length) :=
              Nat.mul_lt_mul_of_pos_right hlt (Nat.pow_pos (by decide))
          _ = 10 ^ (kept.length + (9 - kept.length)) := by
              rw [Nat.zero_add, Nat.one_mul, Nat.pow_add]
          _ = 10 ^ 9 := by
              rw [Nat.add_sub_cancel' hlength]
          _ = 1000000000 := rfl
  · cases h
    decide

/-- A time that is read has less than two seconds of nanoseconds, and a leap second only at the end
of a minute. -/
theorem time?_spec {cs rest : List Char} {total nanos : Nat}
    (h : time? cs = some ((total, nanos), rest)) :
    nanos < 2000000000 ∧ (1000000000 ≤ nanos → total % 60 = 59) := by
  unfold time? at h
  simp only [Option.bind_eq_bind, Option.bind_eq_some_iff, Prod.exists] at h
  obtain ⟨hour, _, -, _, -, minute, _, -, _, -, second, _, -, read, _, hnanos, h⟩ := h
  have hread := nanos?_lt hnanos
  split at h
  · cases h
  · have htotal := congrArg (fun time => time.1.1) (Option.some.inj h)
    have hnanos := congrArg (fun time => time.1.2) (Option.some.inj h)
    dsimp only at htotal hnanos
    by_cases hleap : (second == 60) = true
    · rw [if_pos hleap] at htotal hnanos
      omega
    · rw [if_neg hleap] at hnanos
      omega

theorem offset?_spec {cs rest : List Char} {offset : Int} (h : offset? cs = some (offset, rest)) :
    offset % 60 = 0 := by
  unfold offset? at h
  split at h
  · cases h
    rfl
  · cases h
    rfl
  · split at h
    · cases h
      rfl
    · simp only [Option.bind_eq_bind, Option.bind_eq_some_iff, Prod.exists] at h
      obtain ⟨minus, _, -, hours, _, -, minutes, _, -, h⟩ := h
      split at h
      · cases h
      · obtain rfl := congrArg Prod.fst (Option.some.inj h)
        dsimp only
        split <;> omega

/-- What is read from a text is an instant that is written and read back. -/
theorem isProper_of_parse? {text : String} {t : Instant} (h : parse? text = some t) :
    t.IsProper := by
  unfold parse? at h
  simp only [Option.bind_eq_bind, Option.bind_eq_some_iff, Prod.exists] at h
  obtain ⟨date, _, -, _, -, total, nanos, _, htime, offset, _, hoffset, h⟩ := h
  obtain ⟨hnanos, hleap⟩ := time?_spec htime
  have hminutes := offset?_spec hoffset
  split at h
  · next hcheck =>
      obtain rfl := Option.some.inj h
      rw [Bool.and_eq_true] at hcheck
      refine ⟨hnanos, fun hlong => ?_, hcheck.2⟩
      have hlast := hleap hlong
      dsimp only
      omega
  · cases h

end Timestamp

end AudioLibrary.Time
