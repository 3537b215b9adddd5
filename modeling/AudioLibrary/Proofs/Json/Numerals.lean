import AudioLibrary.Json.Reader
import AudioLibrary.Json.Printer

/-!
# Numbers, spelled and read

The digits of a number are spelled in one way; its exponent may be marked by a letter of either case
and show a plus.  The parser reads every spelling, `numeral?_of_spells`, if what follows does not go
on with it, `EndsNumber`.  The numeral of an integer is one that may be written, and spells that
integer.
-/

namespace AudioLibrary.Json

open AudioLibrary.Json.Parser

/-- Whether a text does not go on with a number before it. -/
def EndsNumber (rest : List Char) : Prop :=
  ∀ c ∈ rest.head?, c.isDigit = false ∧ c ≠ '.' ∧ c ≠ 'e' ∧ c ≠ 'E'

/-- Whether a list is of decimal digits. -/
def AreDigits (ds : List Nat) : Prop := ∀ d ∈ ds, d < 10

end AudioLibrary.Json

namespace AudioLibrary.Numeral

open Json

/-- Whether a numeral is one that may be written: digits wherever there must be some, and no zero
before others. -/
structure IsProper (n : Numeral) : Prop where
  areDigits_whole : AreDigits n.whole
  whole_ne_nil : n.whole ≠ []
  leading : ∀ d ds, n.whole ≠ 0 :: d :: ds
  areDigits_fraction : AreDigits n.fraction
  exponent : ∀ minus ds, n.exponent = some (minus, ds) → AreDigits ds ∧ ds ≠ []

end AudioLibrary.Numeral

namespace AudioLibrary.Json

open AudioLibrary.Json.Parser

theorem digitChar_props : ∀ d < 10,
    (Nat.digitChar d).isDigit = true ∧ (Nat.digitChar d).toNat - '0'.toNat = d := by
  decide

/-- Written digits are read back up to what is no digit. -/
theorem takeDigits_printDigits {ds : List Nat} (hds : AreDigits ds) {rest : List Char}
    (hrest : ∀ c ∈ rest.head?, c.isDigit = false) :
    takeDigits (printDigits ds ++ rest) = (ds, rest) := by
  have hall : ∀ c ∈ printDigits ds, c.isDigit = true := by
    intro c hc
    obtain ⟨d, hd, rfl⟩ := List.mem_map.1 hc
    exact (digitChar_props d (hds d hd)).1
  have htake : rest.takeWhile Char.isDigit = [] := by
    cases rest with
    | nil => rfl
    | cons c rest => rw [List.takeWhile_cons_of_neg (by simp [hrest c rfl])]
  have hdrop : rest.dropWhile Char.isDigit = rest := by
    cases rest with
    | nil => rfl
    | cons c rest => rw [List.dropWhile_cons_of_neg (by simp [hrest c rfl])]
  unfold takeDigits
  rw [List.takeWhile_append_of_pos hall, List.dropWhile_append_of_pos hall, htake, hdrop,
    List.append_nil]
  congr 1
  unfold printDigits
  rw [List.map_map]
  calc ds.map _ = ds.map id :=
        List.map_congr_left fun d hd => (digitChar_props d (hds d hd)).2
    _ = ds := List.map_id ds

theorem someDigits?_printDigits {ds : List Nat} (hds : AreDigits ds) (hne : ds ≠ [])
    {rest : List Char} (hrest : ∀ c ∈ rest.head?, c.isDigit = false) :
    someDigits? (printDigits ds ++ rest) = some (ds, rest) := by
  unfold someDigits?
  rw [takeDigits_printDigits hds hrest]
  cases ds with
  | nil => exact absurd rfl hne
  | cons d ds => rfl

theorem wholeDigits?_printDigits {ds : List Nat} (hds : AreDigits ds) (hne : ds ≠ [])
    (hleading : ∀ d more, ds ≠ 0 :: d :: more) {rest : List Char}
    (hrest : ∀ c ∈ rest.head?, c.isDigit = false) :
    wholeDigits? (printDigits ds ++ rest) = some (ds, rest) := by
  unfold wholeDigits?
  rw [takeDigits_printDigits hds hrest]
  match ds, hne, hleading with
  | [0], _, _ => rfl
  | (d + 1) :: _, _, _ => rfl
  | 0 :: d :: more, _, hleading => exact absurd rfl (hleading d more)

/-- What spells an exponent. -/
def SpellsExponent : Option (Bool × List Nat) → List Char → Prop
  | none, cs => cs = []
  | some (minus, ds), cs => ∃ mark sign, (mark = 'e' ∨ mark = 'E') ∧
      (if minus then sign = ['-'] else sign = [] ∨ sign = ['+']) ∧
      cs = mark :: sign ++ printDigits ds

/-- What is written for a fraction. -/
def printFraction (ds : List Nat) : List Char := if ds.isEmpty then [] else '.' :: printDigits ds

/-- What spells a number. -/
def SpellsNumeral (n : Numeral) (cs : List Char) : Prop :=
  n.IsProper ∧ ∃ exponent, SpellsExponent n.exponent exponent ∧
    cs = (if n.negative then ['-'] else []) ++
      (printDigits n.whole ++ (printFraction n.fraction ++ exponent))

theorem exponent?_of_spells {exponent : Option (Bool × List Nat)} {cs : List Char}
    (h : SpellsExponent exponent cs)
    (hds : ∀ minus ds, exponent = some (minus, ds) → AreDigits ds ∧ ds ≠ []) {rest : List Char}
    (hrest : EndsNumber rest) : exponent? (cs ++ rest) = some (exponent, rest) := by
  have hdigits : ∀ c ∈ rest.head?, c.isDigit = false := fun c hc => (hrest c hc).1
  cases exponent with
  | none =>
      obtain rfl : cs = [] := h
      cases rest with
      | nil => rfl
      | cons c rest =>
          obtain ⟨-, -, he, hE⟩ := hrest c rfl
          exact if_neg (not_or.2 ⟨he, hE⟩)
  | some e =>
      obtain ⟨minus, ds⟩ := e
      obtain ⟨mark, sign, hmark, hsign, rfl⟩ := h
      obtain ⟨hdigit, hne⟩ := hds minus ds rfl
      have hsome := someDigits?_printDigits hdigit hne hdigits
      cases minus with
      | true =>
          obtain rfl : sign = ['-'] := by simpa using hsign
          show exponent? (mark :: '-' :: (printDigits ds ++ rest)) = _
          rw [exponent?, if_pos hmark]
          exact congrArg (Option.map _) hsome
      | false =>
          obtain rfl | rfl : sign = [] ∨ sign = ['+'] := by simpa using hsign
          · -- the first digit is no sign
            obtain ⟨d, more, rfl⟩ := List.exists_cons_of_ne_nil hne
            have hplain : Nat.digitChar d ≠ '+' ∧ Nat.digitChar d ≠ '-' := by
              have := (by decide : ∀ d < 10, Nat.digitChar d ≠ '+' ∧ Nat.digitChar d ≠ '-')
              exact this d (hdigit d List.mem_cons_self)
            show exponent? (mark :: Nat.digitChar d :: (printDigits more ++ rest)) = _
            rw [exponent?, if_pos hmark]
            · exact congrArg (Option.map _) hsome
            · intro _ heq
              exact hplain.1 (List.cons.inj heq).1
            · intro _ heq
              exact hplain.2 (List.cons.inj heq).1
          · show exponent? (mark :: '+' :: (printDigits ds ++ rest)) = _
            rw [exponent?, if_pos hmark]
            exact congrArg (Option.map _) hsome

theorem fraction?_printFraction {ds : List Nat} (hds : AreDigits ds) {rest : List Char}
    (hrest : ∀ c ∈ rest.head?, c.isDigit = false ∧ c ≠ '.') :
    fraction? (printFraction ds ++ rest) = some (ds, rest) := by
  cases ds with
  | nil =>
      cases rest with
      | nil => rfl
      | cons c rest =>
          show fraction? (c :: rest) = _
          unfold fraction?
          split
          · next h => exact absurd (List.cons.inj h).1 (hrest c rfl).2
          · rfl
  | cons d ds =>
      exact someDigits?_printDigits hds (List.cons_ne_nil d ds) fun c hc => (hrest c hc).1

theorem head?_append_of_spellsExponent {exponent : Option (Bool × List Nat)} {cs : List Char}
    (h : SpellsExponent exponent cs) {rest : List Char} (hrest : EndsNumber rest) :
    ∀ c ∈ (cs ++ rest).head?, c.isDigit = false ∧ c ≠ '.' := by
  intro c hc
  cases exponent with
  | none =>
      obtain rfl : cs = [] := h
      exact ⟨(hrest c hc).1, (hrest c hc).2.1⟩
  | some e =>
      obtain ⟨mark, sign, hmark, -, rfl⟩ := h
      obtain rfl : mark = c := Option.some.inj hc
      rcases hmark with rfl | rfl <;> decide

theorem head?_printFraction_append (ds : List Nat) {rest : List Char}
    (hrest : ∀ c ∈ rest.head?, c.isDigit = false) :
    ∀ c ∈ (printFraction ds ++ rest).head?, c.isDigit = false := by
  intro c hc
  cases ds with
  | nil => exact hrest c hc
  | cons d ds =>
      obtain rfl : '.' = c := Option.some.inj hc
      rfl

/-- **A number is read however it is spelled.** -/
theorem numeral?_of_spells {n : Numeral} {cs : List Char} (h : SpellsNumeral n cs)
    {rest : List Char} (hrest : EndsNumber rest) : numeral? (cs ++ rest) = some (n, rest) := by
  obtain ⟨hn, exponent, hspells, rfl⟩ := h
  have hexponent := exponent?_of_spells hspells hn.exponent hrest
  have hhead := head?_append_of_spellsExponent hspells hrest
  have hfraction := fraction?_printFraction hn.areDigits_fraction hhead
  have hwhole := wholeDigits?_printDigits hn.areDigits_whole hn.whole_ne_nil hn.leading
    (head?_printFraction_append n.fraction fun c hc => (hhead c hc).1)
  obtain ⟨d, more, hcons⟩ := List.exists_cons_of_ne_nil hn.whole_ne_nil
  have hminus : Nat.digitChar d ≠ '-' := by
    have := (by decide : ∀ d < 10, Nat.digitChar d ≠ '-')
    exact this d (hn.areDigits_whole d (hcons ▸ List.mem_cons_self))
  simp only [List.append_assoc]
  unfold numeral?
  cases hnegative : n.negative with
  | true =>
      simp only [if_true, List.cons_append, List.nil_append]
      rw [hwhole, Option.bind_eq_bind, Option.bind_some, hfraction, Option.bind_eq_bind,
        Option.bind_some, hexponent, ← hnegative]
      rfl
  | false =>
      simp only [Bool.false_eq_true, if_false, List.nil_append]
      split
      · next heq =>
          rw [hcons] at heq
          exact absurd (List.cons.inj heq).1 hminus
      · dsimp only
        rw [hwhole, Option.bind_eq_bind, Option.bind_some, hfraction, Option.bind_eq_bind,
          Option.bind_some, hexponent, ← hnegative]
        rfl

/-- What is written for a number spells it. -/
theorem spellsNumeral_printNumeral {n : Numeral} (hn : n.IsProper) :
    SpellsNumeral n (printNumeral n) := by
  obtain ⟨negative, whole, fraction, exponent⟩ := n
  refine ⟨hn, _, ?_, List.append_assoc _ _ _ |>.trans (List.append_assoc _ _ _)⟩
  cases exponent with
  | none => rfl
  | some e =>
      obtain ⟨minus, ds⟩ := e
      cases minus with
      | true => exact ⟨'e', ['-'], Or.inl rfl, rfl, rfl⟩
      | false => exact ⟨'e', [], Or.inl rfl, Or.inl rfl, rfl⟩

end AudioLibrary.Json

/-! ## Integers -/

namespace AudioLibrary.Numeral

open Json

theorem digits_of_lt {n : Nat} (h : n < 10) : digits n = [n] := by
  unfold digits
  rw [Nat.toDigits_of_lt_base h, List.map_singleton, (digitChar_props n h).2]

theorem digits_append {m d : Nat} (hm : 0 < m) (hd : d < 10) :
    digits (10 * m + d) = digits m ++ [d] := by
  have hlast := digits_of_lt hd
  unfold digits at hlast ⊢
  rw [← Nat.toDigits_append_toDigits (by decide) hm hd, List.map_append, hlast]

theorem areDigits_digits (n : Nat) : AreDigits (digits n) := by
  induction n using Nat.base_induction 10 (by decide) with
  | single m hm =>
      rw [digits_of_lt hm]
      intro d hd
      rw [List.mem_singleton.1 hd]
      exact hm
  | digit m k hk hm ih =>
      rw [digits_append hm hk]
      intro d hd
      rcases List.mem_append.1 hd with hd | hd
      · exact ih d hd
      · rw [List.mem_singleton.1 hd]
        exact hk

theorem digits_ne_nil (n : Nat) : digits n ≠ [] := by
  unfold digits
  rw [Ne, List.map_eq_nil_iff]
  exact Nat.toDigits_ne_nil

theorem ofDigits_digits (n : Nat) : ofDigits (digits n) = n := by
  induction n using Nat.base_induction 10 (by decide) with
  | single m hm =>
      rw [digits_of_lt hm]
      exact Nat.zero_add m
  | digit m k hk hm ih =>
      unfold ofDigits at ih ⊢
      rw [digits_append hm hk, List.foldl_append, ih]
      rfl

/-- No zero stands before other digits. -/
theorem head?_digits {n : Nat} (hn : 0 < n) : (digits n).head? ≠ some 0 := by
  induction n using Nat.base_induction 10 (by decide) with
  | single m hm =>
      rw [digits_of_lt hm, List.head?_cons]
      intro h
      have := Option.some.inj h
      omega
  | digit m k hk hm ih =>
      obtain ⟨d, ds, hds⟩ := List.exists_cons_of_ne_nil (digits_ne_nil m)
      rw [hds] at ih
      rw [digits_append hm hk, hds]
      exact ih hm

/-- The numeral of an integer may be written. -/
theorem isProper_ofInt (i : Int) : (ofInt i).IsProper where
  areDigits_whole := areDigits_digits i.natAbs
  whole_ne_nil := digits_ne_nil i.natAbs
  leading := by
    intro d ds h
    change digits i.natAbs = 0 :: d :: ds at h
    rcases Nat.eq_zero_or_pos i.natAbs with hzero | hpos
    · rw [hzero, digits_of_lt (by decide)] at h
      cases h
    · have hhead := head?_digits hpos
      rw [h, List.head?_cons] at hhead
      exact hhead rfl
  areDigits_fraction := by
    intro d hd
    cases hd
  exponent := by
    intro minus ds h
    cases h

theorem toInt?_ofInt (i : Int) : (ofInt i).toInt? = some i := by
  have hvalue : ofDigits (ofInt i).whole = i.natAbs := ofDigits_digits i.natAbs
  have hplain : (ofInt i).isPlain = true := rfl
  have hnegative : (ofInt i).negative = decide (i < 0) := rfl
  unfold toInt?
  rw [hvalue, hplain, hnegative]
  by_cases hi : i < 0
  · have hne : (i.natAbs == 0) = false := by
      rw [beq_eq_false_iff_ne]
      omega
    simp only [hne, hi, decide_true, Bool.not_true, Bool.and_false, Bool.or_false,
      Bool.false_eq_true, if_false, if_true]
    congr 1
    omega
  · simp only [hi, decide_false, Bool.not_true, Bool.false_and, Bool.or_false,
      Bool.false_eq_true, if_false]
    congr 1
    omega

end AudioLibrary.Numeral

namespace AudioLibrary.Json

theorem int64?_ofInt64 (i : Int64) : (ofInt64 i).int64? = some i := by
  have hint : (ofInt64 i).int? = some i.toInt := Numeral.toInt?_ofInt i.toInt
  have hrange : Int64.minValue.toInt ≤ i.toInt ∧ i.toInt ≤ Int64.maxValue.toInt :=
    ⟨i.minValue_le_toInt, i.toInt_le⟩
  unfold int64?
  rw [hint, Option.bind_eq_bind, Option.bind_some, if_pos hrange, Int64.ofInt_toInt]
  rfl

end AudioLibrary.Json
