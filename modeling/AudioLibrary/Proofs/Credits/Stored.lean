import AudioLibrary.Proofs.Credits.Normal
import Mathlib.Data.List.Induction

/-!
# Credit fields as the store reads them

The store brings a field into normal form with the functions that it has.  It drops blanks, makes
commas plain and folds letters, but it only passes once over the text to make one comma of each
pair.  What it has then, `creditText`, is not always the normal form: a comma at an end stays, and
so does one of three in a row.  `creditText_eq_field_iff` says that there is no other difference.

A run of commas never vanishes, so what stands between commas is the same up to empty texts
(`filter_splitOnP_shrink`), and no key is empty.  Hence the store, which looks for `,key,`, finds
the same keys, `like_creditText`.
-/

namespace AudioLibrary.Credits

open AudioLibrary.Text AudioLibrary.Relational

/-! ## One pass over pairs of commas -/

/-- A text in which each pair of commas, from left to right, becomes one. -/
def shrink (s : List Char) : List Char := replaceAll [separator, separator] [separator] s

@[simp] theorem shrink_nil : shrink [] = [] := rfl

@[simp] theorem shrink_singleton (c : Char) : shrink [c] = [c] := by
  show replaceFrom [separator, separator] [separator] 0 [c] = [c]
  simp [replaceFrom, List.isPrefixOf]

theorem replaceFrom_pair_cons (c d : Char) (s : List Char) :
    replaceFrom [separator, separator] [separator] 0 (c :: d :: s) =
      if c = separator ∧ d = separator then
        separator :: replaceFrom [separator, separator] [separator] 0 s
      else c :: replaceFrom [separator, separator] [separator] 0 (d :: s) := by
  have hprefix : [separator, separator].isPrefixOf (c :: d :: s) =
      decide (c = separator ∧ d = separator) := by
    simp [List.isPrefixOf, eq_comm, Bool.beq_eq_decide_eq]
  rw [replaceFrom, hprefix]
  by_cases h : c = separator ∧ d = separator
  · simp only [h, and_self, decide_true, if_true]
    rfl
  · simp only [h, decide_false, if_false, Bool.false_eq_true]

theorem shrink_pair (s : List Char) :
    shrink (separator :: separator :: s) = separator :: shrink s :=
  (replaceFrom_pair_cons separator separator s).trans (if_pos ⟨rfl, rfl⟩)

theorem shrink_cons_cons {c d : Char} (h : ¬ (c = separator ∧ d = separator)) (s : List Char) :
    shrink (c :: d :: s) = c :: shrink (d :: s) :=
  (replaceFrom_pair_cons c d s).trans (if_neg h)

/-- The replacement goes over a text as this induction does: two commas at a time, or else one
character. -/
@[elab_as_elim]
theorem pairInduction {motive : List Char → Prop} (nil : motive [])
    (singleton : ∀ c, motive [c])
    (pair : ∀ s, motive s → motive (separator :: separator :: s))
    (cons : ∀ c d s, ¬ (c = separator ∧ d = separator) → motive (d :: s) → motive (c :: d :: s))
    (s : List Char) : motive s := by
  induction s using List.twoStepInduction with
  | nil => exact nil
  | singleton c => exact singleton c
  | cons_cons c d s ih₀ ih₁ =>
      by_cases h : c = separator ∧ d = separator
      · obtain ⟨rfl, rfl⟩ := h
        exact pair s ih₀
      · exact cons c d s h (ih₁ d)

theorem head?_shrink (s : List Char) : (shrink s).head? = s.head? := by
  cases s using pairInduction with
  | nil => rfl
  | singleton c => rw [shrink_singleton]
  | pair s => rw [shrink_pair, List.head?_cons, List.head?_cons]
  | cons c d s h => rw [shrink_cons_cons h, List.head?_cons, List.head?_cons]

theorem shrink_eq_nil_iff {s : List Char} : shrink s = [] ↔ s = [] := by
  rw [← List.head?_eq_none_iff, head?_shrink, List.head?_eq_none_iff]

theorem getLast?_shrink (s : List Char) : (shrink s).getLast? = s.getLast? := by
  induction s using pairInduction with
  | nil => rfl
  | singleton c => rw [shrink_singleton]
  | pair s ih => simp [shrink_pair, List.getLast?_cons, ih]
  | cons c d s h ih => rw [shrink_cons_cons h, List.getLast?_cons, ih, ← List.getLast?_cons]

theorem prefix_iff_head? {s : List Char} : [separator] <+: s ↔ s.head? = some separator := by
  cases s with
  | nil => simp
  | cons c s => simp [List.cons_prefix_cons, eq_comm]

/-- Two commas are left together where three stood in a row. -/
theorem pair_infix_shrink_iff (s : List Char) :
    [separator, separator] <:+: shrink s ↔ [separator, separator, separator] <:+: s := by
  induction s using pairInduction with
  | nil => simp
  | singleton c => simp [List.infix_cons_iff, List.cons_prefix_cons]
  | pair s ih =>
      rw [shrink_pair, List.infix_cons_iff, ih, List.infix_cons_iff, List.infix_cons_iff]
      simp only [List.cons_prefix_cons, true_and, prefix_iff_head?, head?_shrink]
      have hthree : [separator, separator] <+: s → s.head? = some separator := fun h =>
        prefix_iff_head?.1 ((List.prefix_append [separator] [separator]).trans h)
      rw [← or_assoc, or_iff_left_of_imp hthree]
  | cons c d s h ih =>
      rw [shrink_cons_cons h, List.infix_cons_iff, List.infix_cons_iff, ih]
      simp only [List.cons_prefix_cons, prefix_iff_head?, head?_shrink]
      refine or_congr_left ⟨?_, ?_⟩
      · rintro ⟨rfl, hd⟩
        exact absurd ⟨rfl, Option.some.inj hd⟩ h
      · rintro ⟨rfl, rfl, -⟩
        exact absurd ⟨rfl, rfl⟩ h

theorem foldCase_shrink (s : List Char) : foldCase (shrink s) = shrink (foldCase s) := by
  have hlower : ∀ c : Char, c.toLower = separator ↔ c = separator :=
    fun c => toLower_eq_iff_of_lt (by decide)
  have hcons : ∀ c s, foldCase (c :: s) = c.toLower :: foldCase s := fun _ _ => rfl
  induction s using pairInduction with
  | nil => rfl
  | singleton c => rw [shrink_singleton, hcons, foldCase, List.map_nil, shrink_singleton]
  | pair s ih =>
      rw [shrink_pair, hcons, hcons, hcons, ih, (hlower separator).2 rfl, shrink_pair]
  | cons c d s h ih =>
      rw [shrink_cons_cons h, hcons c, ih, hcons c, hcons d,
        shrink_cons_cons (by rwa [hlower, hlower])]

theorem shrink_subset (s : List Char) : shrink s ⊆ s := by
  induction s using pairInduction with
  | nil => exact List.Subset.refl _
  | singleton c => simp
  | pair s ih =>
      rw [shrink_pair]
      exact List.cons_subset_cons _ (List.Subset.trans ih (List.subset_cons_self _ _))
  | cons c d s h ih =>
      rw [shrink_cons_cons h]
      exact List.cons_subset_cons c ih

/-- Shrinking runs of commas keeps the first part and all other parts but empty ones. -/
theorem splitOnP_shrink (s : List Char) :
    ∃ first others shrunk, s.splitOnP (· = separator) = first :: others ∧
      (shrink s).splitOnP (· = separator) = first :: shrunk ∧
      shrunk.filter (· ≠ []) = others.filter (· ≠ []) := by
  induction s using pairInduction with
  | nil => exact ⟨[], [], [], rfl, rfl, rfl⟩
  | singleton c =>
      obtain ⟨first, others, hs⟩ := exists_splitOnP_eq_cons (· = separator) [c]
      exact ⟨first, others, others, hs, by rw [shrink_singleton, hs], rfl⟩
  | pair s ih =>
      obtain ⟨first, others, shrunk, hs, hshrunk, hfilter⟩ := ih
      refine ⟨[], [] :: first :: others, first :: shrunk, ?_, ?_, ?_⟩
      · simp [List.splitOnP_cons_eq_if_modifyHead, hs]
      · simp [shrink_pair, List.splitOnP_cons_eq_if_modifyHead, hshrunk]
      · have hempty : ([] :: first :: others).filter (· ≠ []) =
            (first :: others).filter (· ≠ []) := List.filter_cons_of_neg (by simp)
        rw [hempty, List.filter_cons, List.filter_cons, hfilter]
  | cons c d s h ih =>
      obtain ⟨first, others, shrunk, hs, hshrunk, hfilter⟩ := ih
      rw [shrink_cons_cons h, List.splitOnP_cons_eq_if_modifyHead, hs,
        List.splitOnP_cons_eq_if_modifyHead, hshrunk]
      by_cases hc : c = separator
      · refine ⟨[], first :: others, first :: shrunk, by simp [hc], by simp [hc], ?_⟩
        rw [List.filter_cons, List.filter_cons, hfilter]
      · exact ⟨c :: first, others, shrunk, by simp [hc], by simp [hc], hfilter⟩

theorem filter_splitOnP_shrink (s : List Char) :
    ((shrink s).splitOnP (· = separator)).filter (· ≠ []) =
      (s.splitOnP (· = separator)).filter (· ≠ []) := by
  obtain ⟨first, others, shrunk, hs, hshrunk, hfilter⟩ := splitOnP_shrink s
  rw [hshrunk, hs, List.filter_cons, List.filter_cons, hfilter]

/-! ## Empty parts -/

theorem head?_splitOnP_eq_nil_iff (s : List Char) :
    (s.splitOnP (· = separator)).head? = some [] ↔ s = [] ∨ s.head? = some separator := by
  cases s with
  | nil => simp
  | cons c s =>
      obtain ⟨head, tail, hs⟩ := exists_splitOnP_eq_cons (· = separator) s
      rw [List.splitOnP_cons_eq_if_modifyHead, hs]
      by_cases hc : c = separator <;> simp [hc]

theorem nil_mem_splitOnP_iff_tail (s : List Char) :
    [] ∈ s.splitOnP (· = separator) ↔
      (s = [] ∨ s.head? = some separator) ∨ [] ∈ (s.splitOnP (· = separator)).tail := by
  rw [← head?_splitOnP_eq_nil_iff]
  obtain ⟨head, tail, hs⟩ := exists_splitOnP_eq_cons (· = separator) s
  rw [hs]
  simp [eq_comm]

/-- After the first part comes an empty one if a separator ends the text or follows another. -/
theorem nil_mem_tail_splitOnP_iff (s : List Char) :
    [] ∈ (s.splitOnP (· = separator)).tail ↔
      s.getLast? = some separator ∨ [separator, separator] <:+: s := by
  induction s with
  | nil => simp
  | cons c s ih =>
      have hlast : (c :: s).getLast? = some separator ↔
          (s = [] ∧ c = separator) ∨ s.getLast? = some separator := by
        cases s <;> simp
      have hstart : [separator, separator] <+: c :: s ↔
          s.head? = some separator ∧ c = separator := by
        rw [List.cons_prefix_cons, prefix_iff_head?, and_comm, eq_comm (a := separator)]
      rw [List.splitOnP_cons_eq_if_modifyHead, List.infix_cons_iff, hlast, hstart]
      by_cases hc : c = separator
      · rw [if_pos (by simpa using hc), List.tail_cons, nil_mem_splitOnP_iff_tail, ih]
        simp only [hc, and_true]
        exact or_or_or_comm
      · rw [if_neg (by simpa using hc), List.tail_modifyHead, ih]
        simp only [hc, and_false, false_or]

theorem nil_mem_splitOnP_iff {s : List Char} (hs : s ≠ []) :
    [] ∈ s.splitOnP (· = separator) ↔
      s.head? = some separator ∨ s.getLast? = some separator ∨
        [separator, separator] <:+: s := by
  rw [nil_mem_splitOnP_iff_tail, nil_mem_tail_splitOnP_iff, or_iff_right hs]

/-- **One pass brings a text into normal form exactly if no comma stands at its ends and no three
in a row.** -/
theorem shrink_eq_intercalate_iff (s : List Char) :
    shrink s = List.intercalate [separator] ((s.splitOnP (· = separator)).filter (· ≠ [])) ↔
      s.head? ≠ some separator ∧ s.getLast? ≠ some separator ∧
        ¬ [separator, separator, separator] <:+: s := by
  by_cases hs : s = []
  · subst hs
    exact iff_of_true rfl ⟨nofun, nofun, by simp⟩
  have hshrink : shrink s ≠ [] := mt shrink_eq_nil_iff.1 hs
  have hclear : [] ∉ (shrink s).splitOnP (· = separator) ↔
      s.head? ≠ some separator ∧ s.getLast? ≠ some separator ∧
        ¬ [separator, separator, separator] <:+: s := by
    rw [nil_mem_splitOnP_iff hshrink, head?_shrink, getLast?_shrink, pair_infix_shrink_iff,
      not_or, not_or]
  rw [← hclear, ← filter_splitOnP_shrink]
  constructor
  · intro h hnil
    have hparts : ((shrink s).splitOnP (· = separator)).filter (· ≠ []) ≠ [] := by
      intro hnone
      rw [hnone] at h
      exact hshrink h
    have hkept := splitOnP_intercalate (fun part hpart hsep => by
      have hfalse := eq_false_of_mem_splitOnP (List.mem_filter.1 hpart).1 separator hsep
      simp at hfalse) hparts
    rw [← h] at hkept
    rw [hkept] at hnil
    simp at hnil
  · intro hnil
    have hall : ((shrink s).splitOnP (· = separator)).filter (· ≠ []) =
        (shrink s).splitOnP (· = separator) :=
      List.filter_eq_self.2 fun part hpart => by
        simpa using fun h : part = [] => hnil (h ▸ hpart)
    rw [hall]
    exact (List.intercalate_splitOn separator).symm

/-! ## The text that the store makes of a field -/

/-- A field with blanks dropped, commas made plain and each pair of commas replaced by one, in
letters of one case, between two commas. -/
def creditText (field : List Char) : List Char :=
  separator :: foldCase (replaceAll [separator, separator] [separator]
    ((field.filter fun c => !isStripped c).map narrow)) ++ [separator]

theorem creditText_eq (f : List Char) :
    creditText f = separator :: shrink (fold f) ++ [separator] := by
  unfold fold
  rw [← foldCase_shrink]
  rfl

theorem creditText_eq_field_iff (f : List Char) :
    creditText f = field f ↔
      (fold f).head? ≠ some separator ∧ (fold f).getLast? ≠ some separator ∧
        ¬ [separator, separator, separator] <:+: fold f := by
  rw [← shrink_eq_intercalate_iff, creditText_eq, field, List.append_cancel_right_eq,
    List.cons.injEq, and_iff_right rfl]
  rfl

/-- The keys of a field stand between the commas of the store's text. -/
theorem filter_splitOnP_creditText (f : List Char) :
    ((creditText f).splitOnP (· = separator)).filter (· ≠ []) = keys f := by
  rw [creditText_eq, filter_splitOnP_between, filter_splitOnP_shrink]
  rfl

/-! ## Looking for a key -/

/-- Whether the store finds a key in a field: one of the names has it, letters compared as patterns
compare them, or a U+0000 stands in front and hides it. -/
def Credited (key field : List Char) : Prop :=
  key.head? = some '\x00' ∨
    ∃ name ∈ displayNames field, foldText (Credits.key name) = foldText key

/-- A key without a U+0000 is credited by the names alone. -/
theorem credited_iff {key field : List Char} (h : '\x00' ∉ key) :
    Credited key field ↔
      ∃ name ∈ displayNames field, foldText (Credits.key name) = foldText key :=
  or_iff_right fun hhead => h (List.mem_of_mem_head? hhead)

theorem foldText_splitOnP (s : List Char) :
    (foldText s).splitOnP (· = separator) = (s.splitOnP (· = separator)).map foldText := by
  refine splitOnP_map likeFold (fun c => ?_) s
  have hcomma : likeFold c = separator ↔ c = separator := likeFold_eq_iff_of_lt (by decide)
  simp [hcomma]

/-- Between commas stand, up to letters that count as the same, the keys of the names. -/
theorem foldText_infix_between_iff {s k f : List Char}
    (hs : (s.splitOnP (· = separator)).filter (· ≠ []) = keys f) (hne : k ≠ [])
    (hcomma : separator ∉ k) :
    foldText (separator :: k ++ [separator]) <:+: foldText (separator :: s ++ [separator]) ↔
      ∃ name ∈ displayNames f, foldText (key name) = foldText k := by
  have hsep : likeFold separator = separator := by decide
  have hclear : separator ∉ foldText k := by rwa [mem_foldText_iff_of_lt (by decide)]
  have hfoldne : foldText k ≠ [] := by simpa [foldText] using hne
  have hparts : ∀ part : List Char, foldText part = foldText k →
      (part ∈ s.splitOnP (· = separator) ↔ ∃ name ∈ displayNames f, key name = part) := by
    intro part heq
    have hpart : part ≠ [] := by
      rintro rfl
      exact hfoldne heq.symm
    rw [← List.mem_map, ← keys_eq_map_key, ← hs, List.mem_filter]
    simp [hpart]
  simp only [foldText_append, foldText_cons, foldText_nil, hsep]
  rw [← mem_splitOnP_iff_between hclear hfoldne, foldText_splitOnP, List.mem_map]
  constructor
  · rintro ⟨part, hpart, heq⟩
    obtain ⟨name, hname, rfl⟩ := (hparts part heq).1 hpart
    exact ⟨name, hname, heq⟩
  · rintro ⟨name, hname, heq⟩
    exact ⟨key name, (hparts _ heq).2 ⟨name, hname, rfl⟩, heq⟩

/-- No other character becomes a U+0000. -/
theorem nul_mem_fold_iff {s : List Char} : '\x00' ∈ fold s ↔ '\x00' ∈ s := by
  have hfrom : ∀ d, (narrow d).toLower = '\x00' ↔ d = '\x00' := by
    intro d
    rw [toLower_eq_iff_of_lt (by decide)]
    unfold narrow
    split
    · next h =>
        subst h
        decide
    · rfl
  have hkept : isStripped '\x00' = false := by decide
  simp [mem_fold_iff, hfrom, hkept]

theorem nul_mem_key_iff {name : List Char} : '\x00' ∈ key name ↔ '\x00' ∈ name := by
  have hcomma : '\x00' ≠ separator := by decide
  rw [key, List.mem_filter, nul_mem_fold_iff]
  simp [hcomma]

theorem nul_not_mem_creditText {field : List Char} (h : '\x00' ∉ field) :
    '\x00' ∉ creditText field := by
  have hsep : '\x00' ≠ separator := by decide
  have hfold : '\x00' ∉ shrink (fold field) := fun hmem =>
    h (nul_mem_fold_iff.1 (shrink_subset _ hmem))
  rw [creditText_eq]
  simp [hsep, hfold]

theorem nul_not_mem_key {name field : List Char} (h : '\x00' ∉ field)
    (hname : name ∈ displayNames field) : '\x00' ∉ Credits.key name := fun hmem =>
  h (nul_mem_fold_iff.1 (mem_fold_of_mem_displayNames hname hmem))

/-- A key that holds a U+0000 is looked for only up to that, and at the end of the text; there a
comma stands. -/
theorem beforeNul_suffix_creditText_iff {key field : List Char} (hkey : '\x00' ∈ key)
    (hcomma : separator ∉ key) :
    foldText (beforeNul (separator :: key ++ [separator])) <:+ foldText (creditText field) ↔
      key.head? = some '\x00' := by
  have hsep : likeFold separator = separator := by decide
  have hsepnul : separator ≠ '\x00' := by decide
  have hbefore : beforeNul (separator :: key ++ [separator]) = separator :: beforeNul key := by
    rw [List.cons_append, ← beforeNul_append hkey [separator]]
    simp [beforeNul, hsepnul]
  rw [hbefore]
  cases key with
  | nil => simp at hkey
  | cons c rest =>
      by_cases hc : c = '\x00'
      · simp [hc, beforeNul, creditText]
      · have hfirst : beforeNul (c :: rest) = c :: beforeNul rest := by simp [beforeNul, hc]
        simp only [hfirst, List.head?_cons, Option.some.injEq, hc, iff_false]
        -- the text ends in a comma, which the key up to its U+0000 would have to hold
        intro hsuffix
        obtain ⟨front, hfront⟩ : ∃ front, foldText (creditText field) = front ++ [separator] :=
          ⟨_, foldText_append (_ :: _) [separator]⟩
        rw [hfront, List.suffix_concat_iff] at hsuffix
        rcases hsuffix with hnil | ⟨start, hstart, -⟩
        · simp at hnil
        · have hmem : separator ∈ foldText (c :: beforeNul rest) := by
            cases start with
            | nil => simp at hstart
            | cons d start =>
                have htail := congrArg List.tail hstart
                simp only [foldText_cons, List.tail_cons, List.cons_append] at htail
                rw [foldText_cons, htail]
                simp
          rw [mem_foldText_iff_of_lt (by decide), ← hfirst] at hmem
          exact hcomma ((List.takeWhile_sublist _).subset hmem)

/-- **The store finds a key exactly in the fields that credit it.** -/
theorem like_creditText {key field : List Char} (hfield : '\x00' ∉ field) (hkey : key ≠ [])
    (hcomma : separator ∉ key) :
    like ((creditText field).map some) (['%', ','] ++ escape key ++ [',', '%']) = true ↔
      Credited key field := by
  have hpattern : ['%', ','] ++ escape key ++ [',', '%'] =
      '%' :: escape (separator :: key ++ [separator]) ++ ['%'] := by
    simp [escape_append, escape, escapeMark, separator]
  have hsepnul : '\x00' ≠ separator := by decide
  rw [hpattern, like_containing (nul_not_mem_creditText hfield), Found, Credited]
  by_cases hnul : '\x00' ∈ key
  · -- no name has a key with a U+0000, so only the first alternative is left
    have hnames : ¬ ∃ name ∈ displayNames field, foldText (Credits.key name) = foldText key := by
      rintro ⟨name, hname, heq⟩
      refine nul_not_mem_key hfield hname ?_
      rwa [← mem_foldText_iff_of_lt (by decide), heq, mem_foldText_iff_of_lt (by decide)]
    rw [if_pos (by simp [hnul]), beforeNul_suffix_creditText_iff hnul hcomma]
    simp [hnames]
  · have hhead : key.head? ≠ some '\x00' := fun h => hnul (List.mem_of_mem_head? h)
    rw [if_neg (by simp [hnul, hsepnul]), creditText_eq,
      foldText_infix_between_iff (filter_splitOnP_shrink _) hkey hcomma]
    simp [hhead]

/-! ## Plain comparison of keys -/

theorem isOrdinary_of_mem_fold {s : List Char} (h : ∀ c ∈ s, IsOrdinary c) :
    ∀ c ∈ fold s, IsOrdinary c := by
  intro c hc
  obtain ⟨d, hd, -, rfl⟩ := mem_fold_iff.1 hc
  have hnarrow : IsOrdinary (narrow d) := by
    unfold narrow
    split
    · exact ⟨by decide, by decide, by decide⟩
    · exact h d hd
  obtain ⟨hreplacement, hfirst, hsecond⟩ := hnarrow
  exact ⟨mt (toLower_eq_iff_of_gt (by decide)).1 hreplacement,
    mt (toLower_eq_iff_of_gt (by decide)).1 hfirst,
    mt (toLower_eq_iff_of_gt (by decide)).1 hsecond⟩

/-- Keys are folded, and so only extraordinary characters can count as the same. -/
theorem foldText_key_eq_iff {name : List Char} (h : ∀ c ∈ key name, IsOrdinary c)
    (other : List Char) : foldText (key name) = foldText (key other) ↔ key name = key other := by
  rw [foldText_eq_iff_of_isOrdinary h, foldCase_key, foldCase_key]

/-- **An ordinary name is credited by the fields with a name of the same key.** -/
theorem credited_iff_of_isOrdinary {actor : List Char} (hnul : '\x00' ∉ actor)
    (hactor : ∀ c ∈ actor, IsOrdinary c) (field : List Char) :
    Credited (key actor) field ↔ ∃ name ∈ displayNames field, key name = key actor := by
  have hordinary : ∀ c ∈ key actor, IsOrdinary c := fun c hc =>
    isOrdinary_of_mem_fold hactor c (mem_fold_of_mem_key hc)
  rw [credited_iff (mt nul_mem_key_iff.1 hnul)]
  simp only [eq_comm (b := foldText (key actor)), foldText_key_eq_iff hordinary,
    eq_comm (a := key actor)]

end AudioLibrary.Credits
