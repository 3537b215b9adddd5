import AudioLibrary.Json.Parser
import AudioLibrary.Json.Printer
import Mathlib.Tactic.SplitIfs

/-!
# Strings, spelled and read

A string may spell a code unit in several ways: by the character itself, by a letter after a
backslash, or by four hexadecimal digits.  The parser reads every one of them, `units?_of_spells`,
whatever follows the string.  The printer writes one of them, `spellsText_printText`.
-/

namespace AudioLibrary.Json

open AudioLibrary.Json.Parser

/-! ## What spells a string -/

/-- What spells one code unit of a string. -/
inductive SpellsUnit : Nat → List Char → Prop
  /-- The character stands for itself. -/
  | plain {c : Char} (hcontrol : ¬ c.toNat < 0x20) (hquote : c ≠ '"') (hslash : c ≠ '\\') :
      SpellsUnit c.toNat [c]
  /-- A letter stands for a character. -/
  | letter {e c : Char} (he : simpleEscape? e = some c) : SpellsUnit c.toNat ['\\', e]
  /-- Four digits give the number. -/
  | hex {a b c d : Char} {n : Nat} (hn : hexUnit? a b c d = some n) :
      SpellsUnit n ['\\', 'u', a, b, c, d]

/-- What spells code units one after the other. -/
def SpellsUnits : List Nat → List Char → Prop
  | [], cs => cs = []
  | unit :: units, cs => ∃ first more, cs = first ++ more ∧ SpellsUnit unit first ∧
      SpellsUnits units more

/-- What spells a text, its quotes included; what holds half of a surrogate pair spells none. -/
def SpellsText (s : Option String) (cs : List Char) : Prop :=
  ∃ units body, SpellsUnits units body ∧ (joinUnits? units).map String.ofList = s ∧
    cs = '"' :: body ++ ['"']

/-! ## Reading -/

/-- However a code unit is spelled, it is read. -/
theorem units?_of_spells {unit : Nat} {first : List Char} (hfirst : SpellsUnit unit first)
    {cs rest : List Char} {units : List Nat} (h : units? cs = some (units, rest)) :
    units? (first ++ cs) = some (unit :: units, rest) := by
  cases hfirst with
  | plain hcontrol hquote hslash =>
      have hread : ¬ (_ ∨ _) := not_or.2 ⟨hcontrol, hslash⟩
      rw [List.singleton_append, units?, if_neg hread, h]
      · rfl
      · exact hquote
      · intro _ _ _ _ _ heq _
        exact hslash heq
      · intro _ _ heq _
        exact hslash heq
  | @letter e c he =>
      -- no escape is by the letter that announces digits
      have hu : e ≠ 'u' := by
        rintro rfl
        cases he
      show units? ('\\' :: e :: cs) = _
      rw [units?, he, h]
      · rfl
      · intro _ _ _ _ _ heq _
        exact hu heq
  | hex hn =>
      show units? ('\\' :: 'u' :: _ :: _ :: _ :: _ :: cs) = _
      rw [units?, hn, h]
      rfl

theorem units?_append {units : List Nat} {body : List Char} (h : SpellsUnits units body)
    (rest : List Char) : units? (body ++ '"' :: rest) = some (units, rest) := by
  induction units generalizing body with
  | nil =>
      obtain rfl : body = [] := h
      rfl
  | cons unit units ih =>
      obtain ⟨first, more, rfl, hfirst, hmore⟩ := h
      rw [List.append_assoc]
      exact units?_of_spells hfirst (ih hmore)

/-- What spells a text is read after its opening quote. -/
theorem string?_of_spells {s : Option String} {cs : List Char} (h : SpellsText s cs)
    (rest : List Char) :
    ∃ more, cs ++ rest = '"' :: more ∧ Parser.string? more = some (s, rest) := by
  obtain ⟨units, body, hbody, rfl, rfl⟩ := h
  refine ⟨body ++ '"' :: rest, by simp, ?_⟩
  unfold Parser.string?
  rw [units?_append hbody, Option.map_some]

/-! ## Writing -/

/-- What is written for a character spells it. -/
theorem spellsUnit_escapeChar (c : Char) : SpellsUnit c.toNat (escapeChar c) := by
  unfold escapeChar
  split_ifs with hquote hslash hback htab hline hfeed hreturn hcontrol
  · subst hquote
    exact .letter rfl
  · subst hslash
    exact .letter rfl
  · subst hback
    exact .letter rfl
  · subst htab
    exact .letter rfl
  · subst hline
    exact .letter rfl
  · subst hfeed
    exact .letter rfl
  · subst hreturn
    exact .letter rfl
  · have hunit : ∀ n < 0x20,
        hexUnit? '0' '0' (Nat.digitChar (n / 16)) (Nat.digitChar (n % 16)) = some n := by
      decide
    exact .hex (hunit c.toNat hcontrol)
  · exact .plain hcontrol hquote hslash

theorem spellsUnits_flatMap (s : List Char) :
    SpellsUnits (s.map Char.toNat) (s.flatMap escapeChar) := by
  induction s with
  | nil => rfl
  | cons c s ih => exact ⟨_, _, List.flatMap_cons, spellsUnit_escapeChar c, ih⟩

/-- No character is half of a surrogate pair. -/
theorem not_isHalf_toNat (c : Char) : isHighHalf c.toNat = false ∧ isLowHalf c.toNat = false := by
  have hvalid : c.toNat < 0xD800 ∨ (0xDFFF < c.toNat ∧ c.toNat < 0x110000) := c.valid
  unfold isHighHalf isLowHalf
  constructor
  · rw [Bool.and_eq_false_iff, decide_eq_false_iff_not, decide_eq_false_iff_not]
    omega
  · rw [Bool.and_eq_false_iff, decide_eq_false_iff_not, decide_eq_false_iff_not]
    omega

theorem joinUnits?_map_toNat (s : List Char) : joinUnits? (s.map Char.toNat) = some s := by
  induction s with
  | nil => rfl
  | cons c s ih =>
      obtain ⟨hhigh, hlow⟩ := not_isHalf_toNat c
      rw [List.map_cons]
      unfold joinUnits?
      simp only [hhigh, hlow, Bool.false_eq_true, if_false]
      rw [ih, Option.map_some, Char.ofNat_toNat]

/-- What is written for a text spells it. -/
theorem spellsText_printText (s : Option String) : SpellsText s (printText s) := by
  cases s with
  | none =>
      have hhalf : hexUnit? 'd' '8' '0' '0' = some 0xD800 := by decide
      exact ⟨[0xD800], _, ⟨_, [], rfl, .hex hhalf, rfl⟩, by decide, rfl⟩
  | some s =>
      refine ⟨_, _, spellsUnits_flatMap s.toList, ?_, rfl⟩
      rw [joinUnits?_map_toNat, Option.map_some, String.ofList_toList]

end AudioLibrary.Json
