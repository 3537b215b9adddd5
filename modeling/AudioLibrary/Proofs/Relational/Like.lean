import AudioLibrary.Proofs.Text.Folding
import AudioLibrary.Text.Collation
import Mathlib.Data.List.Infix
import Mathlib.Data.List.TakeWhile

/-!
# Patterns made from a text

The library looks for a text by putting its escaped form between percent signs.  Matching such a
pattern is searching for the text: `likeFold` says which characters count as the same, and
`Found word text` says that the word stands in the text up to that.

Two things set the store's search apart from a plain one.  The noncharacters U+FFFE and U+FFFF
count as the replacement character, and a pattern ends at its first U+0000.  The percent sign at
the end is then cut off with the rest, so a word that holds a U+0000 is found only where the part
before it ends the text.

## Main statements

* `like_containing` : matching a word between percent signs is finding the word.
* `effective_escape_append` : where a pattern made from a word ends.
-/

namespace AudioLibrary.Relational

open AudioLibrary.Text

/-- What a text is compared by. -/
def foldText (text : List Char) : List Char := text.map likeFold

/-- The part of a word before its first U+0000. -/
def beforeNul (word : List Char) : List Char := word.takeWhile (· ≠ '\x00')

/-- Whether a word is found in a text: it stands there, or, if it holds a U+0000, the part before
that stands at the end. -/
def Found (word text : List Char) : Prop :=
  if '\x00' ∈ word then foldText (beforeNul word) <:+ foldText text
  else foldText word <:+: foldText text

instance (word text : List Char) : Decidable (Found word text) := by
  unfold Found
  infer_instance

@[simp] theorem foldText_append (s t : List Char) :
    foldText (s ++ t) = foldText s ++ foldText t :=
  List.map_append

@[simp] theorem foldText_cons (c : Char) (s : List Char) :
    foldText (c :: s) = likeFold c :: foldText s := rfl

@[simp] theorem foldText_nil : foldText [] = [] := rfl

@[simp] theorem foldText_foldCase (s : List Char) : foldText (foldCase s) = foldText s := by
  simp [foldText, foldCase]

/-- Folding neither makes nor removes a character below the letters. -/
theorem mem_foldText_iff_of_lt {d : Char} (hd : d.toNat < 65) {s : List Char} :
    d ∈ foldText s ↔ d ∈ s := by
  simp [foldText, likeFold_eq_iff_of_lt hd]

theorem beforeNul_append {s : List Char} (h : '\x00' ∈ s) (t : List Char) :
    beforeNul (s ++ t) = beforeNul s := by
  induction s with
  | nil => simp at h
  | cons c s ih =>
      by_cases hc : c = '\x00'
      · simp [beforeNul, hc]
      · have hs : '\x00' ∈ s := by simpa [Ne.symm hc] using h
        simpa [beforeNul, hc] using ih hs

/-! ## Escaped texts -/

theorem escape_append (s t : List Char) : escape (s ++ t) = escape s ++ escape t := by
  induction s with
  | nil => rfl
  | cons c s ih =>
      by_cases h : c = '%' ∨ c = '_' ∨ c = escapeMark <;> simp [escape, h, ih]

theorem length_le_length_escape (s : List Char) : s.length ≤ (escape s).length := by
  induction s with
  | nil => exact Nat.zero_le _
  | cons c s ih =>
      unfold escape
      split <;> simp only [List.length_cons] <;> omega

/-- An escaped text spells one text only. -/
theorem escape_injective : Function.Injective escape := by
  intro s t h
  have htokens : ∀ text, likeTokens? (escape text) = some (text.map LikeToken.exactly) := by
    intro text
    have happend := likeTokens?_escape_append text []
    rwa [List.append_nil, likeTokens?, Option.map_some, List.append_nil] at happend
  have hmap : s.map LikeToken.exactly = t.map LikeToken.exactly := by
    rw [← Option.some_inj, ← htokens, ← htokens, h]
  exact (List.map_inj_right fun _ _ => LikeToken.exactly.inj).mp hmap

/-- What counts of a pattern that starts with an escaped text. -/
theorem effective_escape_append (word rest : List Char) :
    effective (escape word ++ rest) =
      if '\x00' ∈ word then escape (beforeNul word) else escape word ++ effective rest := by
  induction word with
  | nil => simp [escape]
  | cons c word ih =>
      have hmark : escapeMark ≠ '\x00' := by decide
      by_cases hc : c = '\x00'
      · subst hc
        have hplain : ¬ ('\x00' = '%' ∨ '\x00' = '_' ∨ '\x00' = escapeMark) := by decide
        rw [escape, if_neg hplain]
        simp [escape, effective, beforeNul]
      · have hmem : '\x00' ∈ c :: word ↔ '\x00' ∈ word := by simp [Ne.symm hc]
        have hbefore : beforeNul (c :: word) = c :: beforeNul word := by simp [beforeNul, hc]
        unfold effective at ih ⊢
        simp only [hmem, hbefore]
        by_cases h : c = '%' ∨ c = '_' ∨ c = escapeMark
        · simp only [escape, if_pos h, List.cons_append]
          rw [List.takeWhile_cons_of_pos (by simpa using hmark),
            List.takeWhile_cons_of_pos (by simpa using hc), ih]
          split <;> rfl
        · simp only [escape, if_neg h, List.cons_append]
          rw [List.takeWhile_cons_of_pos (by simpa using hc), ih]
          split <;> rfl

/-! ## Matching -/

theorem matchesTokens_exactly (word text : List Char) :
    matchesTokens (word.map .exactly) (text.map some) = true ↔ foldText word = foldText text := by
  induction word generalizing text with
  | nil => cases text <;> simp [matchesTokens]
  | cons c word ih =>
      cases text with
      | nil => simp [matchesTokens]
      | cons d text => simp [matchesTokens, ih]

theorem matchesTokens_anyText (text : List Place) : matchesTokens [.anyText] text = true := by
  rw [matchesTokens, anySuffix_iff]
  exact ⟨[], List.nil_suffix, rfl⟩

theorem matchesTokens_exactly_anyText (word text : List Char) :
    matchesTokens (word.map .exactly ++ [.anyText]) (text.map some) = true ↔
      foldText word <+: foldText text := by
  induction word generalizing text with
  | nil => simp [matchesTokens_anyText]
  | cons c word ih =>
      cases text with
      | nil => simp [matchesTokens]
      | cons d text => simp [matchesTokens, ih, List.cons_prefix_cons]

/-- A percent sign in front: what follows it matches some end of the text. -/
theorem matchesTokens_anyText_cons (tokens : List LikeToken) (text : List Char) :
    matchesTokens (.anyText :: tokens) (text.map some) = true ↔
      ∃ tail, tail <:+ text ∧ matchesTokens tokens (tail.map some) = true := by
  rw [matchesTokens, anySuffix_iff]
  constructor
  · rintro ⟨places, hplaces, hmatch⟩
    obtain ⟨tail, htail, rfl⟩ := List.suffix_map_iff.1 hplaces
    exact ⟨tail, htail, hmatch⟩
  · rintro ⟨tail, htail, hmatch⟩
    exact ⟨tail.map some, htail.map some, hmatch⟩

theorem foldText_suffix_iff {word text : List Char} :
    foldText word <:+ foldText text ↔ ∃ tail, tail <:+ text ∧ foldText word = foldText tail := by
  constructor
  · intro h
    obtain ⟨tail, htail, heq⟩ := List.suffix_map_iff.1 h
    exact ⟨tail, htail, heq⟩
  · rintro ⟨tail, htail, heq⟩
    rw [heq]
    exact htail.map likeFold

/-- A word within a text starts one of its ends. -/
theorem map_infix_map_iff (f : Char → Char) {word text : List Char} :
    word.map f <:+: text.map f ↔ ∃ tail, tail <:+ text ∧ word.map f <+: tail.map f := by
  constructor
  · intro h
    obtain ⟨suffix, hstart, hsuffix⟩ := List.infix_iff_prefix_suffix.1 h
    obtain ⟨tail, htail, rfl⟩ := List.suffix_map_iff.1 hsuffix
    exact ⟨tail, htail, hstart⟩
  · rintro ⟨tail, htail, hstart⟩
    exact hstart.isInfix.trans (htail.map f).isInfix

theorem foldText_infix_iff {word text : List Char} :
    foldText word <:+: foldText text ↔
      ∃ tail, tail <:+ text ∧ foldText word <+: foldText tail :=
  map_infix_map_iff likeFold

theorem effective_percent (rest : List Char) : effective ('%' :: rest) = '%' :: effective rest := by
  simp [effective]

theorem likeTokens?_percent (rest : List Char) :
    likeTokens? ('%' :: rest) = (likeTokens? rest).map (.anyText :: ·) := by
  have hmark : '%' ≠ escapeMark := by decide
  simp [likeTokens?, hmark]

/-- **Matching a word between percent signs is finding it.**  The text must be free of U+0000,
which would hide its end. -/
theorem like_containing {text : List Char} (htext : '\x00' ∉ text) (word : List Char) :
    like (text.map some) ('%' :: escape word ++ ['%']) = true ↔ Found word text := by
  have hvisible : visible (text.map some) = text.map some := by
    refine List.takeWhile_eq_self_iff.2 fun place hplace => ?_
    obtain ⟨c, hc, rfl⟩ := List.mem_map.1 hplace
    have hne : c ≠ '\x00' := fun h => htext (h ▸ hc)
    simpa using hne
  unfold like Found
  rw [hvisible, List.cons_append, effective_percent, likeTokens?_percent, effective_escape_append]
  by_cases hnul : '\x00' ∈ word
  · have hpart := likeTokens?_escape_append (beforeNul word) []
    rw [List.append_nil] at hpart
    simp only [if_pos hnul, hpart, likeTokens?, Option.map_some, List.append_nil]
    rw [matchesTokens_anyText_cons, foldText_suffix_iff]
    simp only [matchesTokens_exactly]
  · have hend : effective ['%'] = ['%'] := rfl
    simp only [if_neg hnul, hend, likeTokens?_escape_append, likeTokens?_percent, likeTokens?,
      Option.map_some]
    rw [matchesTokens_anyText_cons, foldText_infix_iff]
    simp only [matchesTokens_exactly_anyText]

/-! ## Words within words -/

/-- After a word that matches, what follows it in the pattern matches an end of the text. -/
theorem exists_suffix_of_matchesTokens_exactly {word : List Char} {tokens : List LikeToken}
    {text : List Place} (h : matchesTokens (word.map .exactly ++ tokens) text = true) :
    ∃ tail, tail <:+ text ∧ matchesTokens tokens tail = true := by
  induction word generalizing text with
  | nil => exact ⟨text, List.suffix_rfl, h⟩
  | cons c word ih =>
      cases text with
      | nil => simp [matchesTokens] at h
      | cons place text =>
          simp only [List.map_cons, List.cons_append, matchesTokens, Bool.and_eq_true] at h
          obtain ⟨tail, htail, hmatch⟩ := ih h.2
          exact ⟨tail, htail.trans (List.suffix_cons place text), hmatch⟩

/-- What follows a word in a pattern may be weakened. -/
theorem matchesTokens_exactly_mono {tokens weaker : List LikeToken}
    (hweaker : ∀ text, matchesTokens tokens text = true → matchesTokens weaker text = true)
    {word : List Char} {text : List Place}
    (h : matchesTokens (word.map .exactly ++ tokens) text = true) :
    matchesTokens (word.map .exactly ++ weaker) text = true := by
  induction word generalizing text with
  | nil => exact hweaker text h
  | cons c word ih =>
      cases text with
      | nil => simp [matchesTokens] at h
      | cons place text =>
          simp only [List.map_cons, List.cons_append, matchesTokens, Bool.and_eq_true] at h ⊢
          exact ⟨h.1, ih h.2⟩

/-- The elements of the pattern for a word. -/
theorem like_containing_eq {word : List Char} (hnul : '\x00' ∉ word) (text : List Place) :
    like text ('%' :: escape word ++ ['%']) =
      matchesTokens (.anyText :: (word.map .exactly ++ [.anyText])) (visible text) := by
  have hend : likeTokens? (effective ['%']) = some [.anyText] := rfl
  unfold like
  rw [List.cons_append, effective_percent, likeTokens?_percent, effective_escape_append,
    if_neg hnul, likeTokens?_escape_append, hend]
  rfl

/-- **Where a word is found, so is a word within it**, whatever it is that is searched. -/
theorem like_containing_of_infix {inner word : List Char} (hnul : '\x00' ∉ word)
    (hinner : inner <:+: word) {text : List Place}
    (h : like text ('%' :: escape word ++ ['%']) = true) :
    like text ('%' :: escape inner ++ ['%']) = true := by
  have hnul' : '\x00' ∉ inner := fun hmem => hnul (hinner.subset hmem)
  rw [like_containing_eq hnul, matchesTokens, anySuffix_iff] at h
  rw [like_containing_eq hnul', matchesTokens, anySuffix_iff]
  obtain ⟨front, back, rfl⟩ := hinner
  obtain ⟨tail, htail, hmatch⟩ := h
  simp only [List.map_append, List.append_assoc] at hmatch
  obtain ⟨rest, hrest, hmatch⟩ := exists_suffix_of_matchesTokens_exactly hmatch
  exact ⟨rest, hrest.trans htail,
    matchesTokens_exactly_mono (fun text _ => matchesTokens_anyText text) hmatch⟩

/-! ## Plain search -/

/-- Whether patterns compare a character as plain text, up to ASCII case. -/
def IsOrdinary (c : Char) : Prop := c ≠ '\ufffd' ∧ c ≠ '\ufffe' ∧ c ≠ '\uffff'

instance (c : Char) : Decidable (IsOrdinary c) := by
  unfold IsOrdinary
  infer_instance

/-- An ordinary character is found only where it stands, up to ASCII case. -/
theorem likeFold_eq_iff_of_isOrdinary {c d : Char} (hc : IsOrdinary c) :
    likeFold c = likeFold d ↔ c.toLower = d.toLower := by
  obtain ⟨hreplacement, hfirst, hsecond⟩ := hc
  have hplain : likeFold c = c.toLower := if_neg (by simp [hfirst, hsecond])
  rw [hplain]
  by_cases hd : d = '\ufffe' ∨ d = '\uffff'
  · have hfold : likeFold d = '\ufffd' := if_pos hd
    have hlower : d.toLower = d := by rcases hd with rfl | rfl <;> decide
    have hbig : 122 < d.toNat := by rcases hd with rfl | rfl <;> decide
    -- folding moves nothing beyond the letters
    rw [hfold, hlower, toLower_eq_iff_of_gt (by decide), toLower_eq_iff_of_gt hbig]
    refine iff_of_false hreplacement ?_
    rintro rfl
    rcases hd with h | h
    · exact hfirst h
    · exact hsecond h
  · have hfold : likeFold d = d.toLower := if_neg hd
    rw [hfold]

theorem foldText_prefix_iff_of_isOrdinary {word : List Char}
    (hword : ∀ c ∈ word, IsOrdinary c) (text : List Char) :
    foldText word <+: foldText text ↔ foldCase word <+: foldCase text := by
  induction word generalizing text with
  | nil => simp [foldText, foldCase]
  | cons c word ih =>
      have ih := ih fun d hd => hword d (List.mem_cons_of_mem c hd)
      cases text with
      | nil => simp [foldText, foldCase]
      | cons d text =>
          have hfold := likeFold_eq_iff_of_isOrdinary (d := d) (hword c (List.mem_cons_self ..))
          have htail := ih text
          unfold foldText foldCase at htail ⊢
          rw [List.map_cons, List.map_cons, List.map_cons, List.map_cons, List.cons_prefix_cons,
            List.cons_prefix_cons, hfold, htail]

theorem foldText_eq_iff_of_isOrdinary {word text : List Char}
    (hword : ∀ c ∈ word, IsOrdinary c) :
    foldText word = foldText text ↔ foldCase word = foldCase text := by
  have hstart := foldText_prefix_iff_of_isOrdinary hword text
  constructor
  · intro h
    have hlength : word.length = text.length := by simpa [foldText] using congrArg List.length h
    exact (hstart.1 (h ▸ List.prefix_rfl)).eq_of_length (by simpa [foldCase] using hlength)
  · intro h
    have hlength : word.length = text.length := by simpa [foldCase] using congrArg List.length h
    exact (hstart.2 (h ▸ List.prefix_rfl)).eq_of_length (by simpa [foldText] using hlength)

/-- **Finding an ordinary word is plain search up to ASCII case.** -/
theorem found_iff_of_isOrdinary {word text : List Char} (hnul : '\x00' ∉ word)
    (hword : ∀ c ∈ word, IsOrdinary c) :
    Found word text ↔ foldCase word <:+: foldCase text := by
  have hplain : foldCase word <:+: foldCase text ↔
      ∃ tail, tail <:+ text ∧ foldCase word <+: foldCase tail := map_infix_map_iff Char.toLower
  rw [Found, if_neg hnul, foldText_infix_iff, hplain]
  simp only [foldText_prefix_iff_of_isOrdinary hword]

/-- Finding a word in an ordinary text is plain search, whatever the word is made of. -/
theorem found_iff_of_isOrdinary_text {word text : List Char} (hnul : '\x00' ∉ word)
    (htext : ∀ c ∈ text, IsOrdinary c) :
    Found word text ↔ foldCase word <:+: foldCase text := by
  have hpart : ∀ part, part <:+: text →
      (foldText word = foldText part ↔ foldCase word = foldCase part) := by
    intro part hpart
    rw [eq_comm, foldText_eq_iff_of_isOrdinary fun c hc => htext c (hpart.subset hc), eq_comm]
  rw [Found, if_neg hnul]
  calc foldText word <:+: foldText text
    _ ↔ ∃ part, part <:+: text ∧ foldText word = foldText part := List.infix_map_iff
    _ ↔ ∃ part, part <:+: text ∧ foldCase word = foldCase part :=
      exists_congr fun part => and_congr_right (hpart part)
    _ ↔ foldCase word <:+: foldCase text := List.infix_map_iff.symm

end AudioLibrary.Relational
