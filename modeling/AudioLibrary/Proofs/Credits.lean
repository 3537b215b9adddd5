import AudioLibrary.Proofs.Relational.Like
import AudioLibrary.Query.Predicate

/-!
# Keys in credit fields

A credit field is a list of names, each with its key.  The fields are read in two ways: folded as a
whole and then split, or split into names that are folded one by one.  Folding keeps separators
apart from all else, so both ways come to the same keys, `keys_eq_map_key`.

The first section is about splitting lists at separators, and knows nothing of credits.
-/

namespace AudioLibrary.Credits

open AudioLibrary.Text AudioLibrary.Relational

/-! ## Texts between separators -/

section Split

variable {α β : Type} [DecidableEq α]

omit [DecidableEq α] in
theorem exists_splitOnP_eq_cons (p : α → Bool) (s : List α) :
    ∃ first others, s.splitOnP p = first :: others :=
  List.exists_cons_of_ne_nil (List.splitOnP_ne_nil p s)

omit [DecidableEq α] in
/-- Splitting commutes with a map that keeps the separators apart. -/
theorem splitOnP_map (f : α → β) {p : α → Bool} {q : β → Bool} (h : ∀ a, q (f a) = p a)
    (s : List α) : (s.map f).splitOnP q = (s.splitOnP p).map (List.map f) := by
  induction s with
  | nil => rfl
  | cons a s ih =>
      rw [List.map_cons, List.splitOnP_cons_eq_if_modifyHead, List.splitOnP_cons_eq_if_modifyHead,
        h, ih]
      split
      · rfl
      · cases s.splitOnP p <;> rfl

omit [DecidableEq α] in
/-- No part holds a separator. -/
theorem eq_false_of_mem_splitOnP {p : α → Bool} {s part : List α} (h : part ∈ s.splitOnP p) :
    ∀ a ∈ part, p a = false := by
  induction s generalizing part with
  | nil => simp_all
  | cons a s ih =>
      obtain ⟨head, tail, hs⟩ := exists_splitOnP_eq_cons p s
      rw [List.splitOnP_cons_eq_if_modifyHead, hs] at h
      cases ha : p a with
      | true =>
          rw [if_pos ha] at h
          rcases List.mem_cons.1 h with rfl | h
          · simp
          · exact ih (hs ▸ h)
      | false =>
          rw [if_neg (by simp [ha])] at h
          rcases List.mem_cons.1 h with rfl | h
          · intro b hb
            rcases List.mem_cons.1 hb with rfl | hb
            · exact ha
            · exact ih (by simp [hs]) b hb
          · exact ih (by simp [hs, h])

/-- The first part starts the text, and every other part stands between separators. -/
theorem splitOnP_parts {sep : α} {s first : List α} {others : List (List α)}
    (h : s.splitOnP (· = sep) = first :: others) :
    first ++ [sep] <+: s ++ [sep] ∧
      ∀ part ∈ others, sep :: part ++ [sep] <:+: s ++ [sep] := by
  induction s generalizing first others with
  | nil =>
      obtain ⟨rfl, rfl⟩ : first = [] ∧ others = [] := by simpa [eq_comm] using h
      simp
  | cons a s ih =>
      obtain ⟨head, tail, hs⟩ := exists_splitOnP_eq_cons (· = sep) s
      obtain ⟨hhead, htail⟩ := ih hs
      rw [List.splitOnP_cons_eq_if_modifyHead, hs] at h
      by_cases ha : a = sep
      · subst ha
        obtain ⟨rfl, rfl⟩ : [] = first ∧ head :: tail = others := by simpa using h
        refine ⟨⟨s ++ [a], by simp⟩, ?_⟩
        intro part hpart
        rcases List.mem_cons.1 hpart with rfl | hpart
        · exact (List.prefix_cons_inj a |>.2 hhead).isInfix
        · exact (htail part hpart).trans (List.suffix_cons a _).isInfix
      · obtain ⟨rfl, rfl⟩ : a :: head = first ∧ tail = others := by simpa [ha] using h
        refine ⟨List.prefix_cons_inj a |>.2 hhead, ?_⟩
        intro part hpart
        exact (htail part hpart).trans (List.suffix_cons a _).isInfix

/-- Between separators a text has the same parts, and an empty one at either end. -/
theorem splitOnP_between (sep : α) (s : List α) :
    (sep :: s ++ [sep]).splitOnP (· = sep) = [] :: s.splitOnP (· = sep) ++ [[]] := by
  rw [List.cons_append, List.splitOnP_cons_eq_if_modifyHead, if_pos (by simp),
    List.splitOnP_append_cons s [] (by simp)]
  rfl

theorem filter_splitOnP_between (sep : α) (s : List α) :
    ((sep :: s ++ [sep]).splitOnP (· = sep)).filter (· ≠ []) =
      (s.splitOnP (· = sep)).filter (· ≠ []) := by
  rw [splitOnP_between, List.filter_append, List.filter_cons_of_neg (by simp),
    List.filter_cons_of_neg (by simp), List.filter_nil, List.append_nil]

/-- A text without separators lies between separators exactly if it is one of the parts. -/
theorem mem_splitOnP_iff_between {sep : α} {part s : List α} (hpart : sep ∉ part)
    (hne : part ≠ []) :
    part ∈ s.splitOnP (· = sep) ↔ sep :: part ++ [sep] <:+: sep :: s ++ [sep] := by
  constructor
  · intro hmem
    obtain ⟨head, tail, hs⟩ := exists_splitOnP_eq_cons (· = sep) s
    obtain ⟨hhead, htail⟩ := splitOnP_parts hs
    rw [hs] at hmem
    rcases List.mem_cons.1 hmem with rfl | hmem
    · exact (List.prefix_cons_inj sep |>.2 hhead).isInfix
    · exact (htail part hmem).trans (List.suffix_cons sep _).isInfix
  · rintro ⟨before, after, heq⟩
    have hclear : ∀ a ∈ part, decide (a = sep) = false := by
      intro a ha
      simpa using fun h : a = sep => hpart (h ▸ ha)
    have hsplit := congrArg (List.splitOnP (· = sep)) heq
    rw [splitOnP_between, List.append_assoc, List.append_assoc, List.cons_append,
      List.splitOnP_append_cons before _ (by simp), List.singleton_append,
      List.splitOnP_append_cons part after (by simp), List.splitOnP_eq_singleton hclear] at hsplit
    have hmem : part ∈ [] :: s.splitOnP (· = sep) ++ [[]] := by
      rw [← hsplit]
      simp
    simpa [hne] using hmem

/-- Parts without separators are what the text that joins them is split into. -/
theorem splitOnP_intercalate {sep : α} {parts : List (List α)}
    (hparts : ∀ part ∈ parts, sep ∉ part) (hne : parts ≠ []) :
    (List.intercalate [sep] parts).splitOnP (· = sep) = parts :=
  List.splitOn_intercalate sep hparts hne

end Split

/-! ## Names and their keys -/

theorem not_isStripped_of_isSeparator {c : Char} (h : isSeparator c = true) :
    isStripped c = false := by
  rcases (by simpa [isSeparator] using h : c = separator ∨ c = wideSeparator) with rfl | rfl <;>
    decide

theorem isStripped_narrow (c : Char) : isStripped (narrow c) = isStripped c := by
  unfold narrow
  split
  · next h =>
      subst h
      decide
  · rfl

@[simp] theorem fold_nil : fold [] = [] := rfl

theorem fold_cons (c : Char) (s : List Char) :
    fold (c :: s) = if isStripped c then fold s else (narrow c).toLower :: fold s := by
  unfold fold
  cases h : isStripped c <;> simp [h, foldCase]

/-- Exactly the separators become commas. -/
theorem toLower_narrow_eq_separator_iff {c : Char} :
    (narrow c).toLower = separator ↔ isSeparator c = true := by
  rw [toLower_eq_iff_of_lt (by decide)]
  unfold narrow isSeparator
  split <;> simp_all

theorem fold_eq_nil_iff {s : List Char} : fold s = [] ↔ ∀ c ∈ s, isStripped c = true := by
  induction s with
  | nil => simp
  | cons c s ih => cases h : isStripped c <;> simp [fold_cons, h, ih]

/-- Folding a field first and splitting it then comes to splitting first. -/
theorem splitOnP_fold (s : List Char) :
    (fold s).splitOnP (· = separator) = (s.splitOnP isSeparator).map fold := by
  induction s with
  | nil => rfl
  | cons c s ih =>
      rw [fold_cons, List.splitOnP_cons_eq_if_modifyHead]
      cases hc : isSeparator c with
      | true =>
          have hsep := toLower_narrow_eq_separator_iff.2 hc
          rw [if_neg (by simp [not_isStripped_of_isSeparator hc]),
            List.splitOnP_cons_eq_if_modifyHead, if_pos (by simpa using hsep), ih]
          rfl
      | false =>
          have hsep : (narrow c).toLower ≠ separator := fun h => by
            simp [toLower_narrow_eq_separator_iff.1 h] at hc
          obtain ⟨head, tail, hs⟩ := exists_splitOnP_eq_cons isSeparator s
          cases hstripped : isStripped c with
          | true => simp [ih, hs, fold_cons, hstripped]
          | false =>
              simp [List.splitOnP_cons_eq_if_modifyHead, hsep, ih, hs, fold_cons, hstripped]

/-- Trimming does not count in a key. -/
theorem fold_trim (s : List Char) : fold (trim isStripped s) = fold s := by
  have hdrop : ∀ s, fold (s.dropWhile isStripped) = fold s := by
    intro s
    induction s with
    | nil => rfl
    | cons c s ih => cases h : isStripped c <;> simp [fold_cons, h, ih]
  have hreverse : ∀ s, fold s.reverse = (fold s).reverse := by
    intro s
    simp [fold, foldCase]
  rw [trim, hreverse, hdrop, hreverse, hdrop, List.reverse_reverse]

theorem key_trim (name : List Char) : key (Text.trim isStripped name) = key name := by
  unfold key
  rw [fold_trim]

/-- A text without separators is its own key up to folding. -/
theorem key_eq_fold {s : List Char} (h : ∀ c ∈ s, isSeparator c = false) : key s = fold s := by
  refine List.filter_eq_self.2 fun c hc => ?_
  have hclear : ∀ c ∈ fold s, c ≠ separator := by
    intro c hc hsep
    obtain ⟨d, hd, rfl⟩ := List.mem_map.1 hc
    obtain ⟨e, he, rfl⟩ := List.mem_map.1 hd
    have hseparator := h e (List.mem_filter.1 he).1
    rw [toLower_narrow_eq_separator_iff.1 hsep] at hseparator
    exact absurd hseparator (by decide)
  simpa using hclear c hc

/-- **The keys of a field are the keys of its names**, in order. -/
theorem keys_eq_map_key (field : List Char) : keys field = (displayNames field).map key := by
  unfold keys displayNames
  rw [splitOnP_fold]
  have hparts := fun part (h : part ∈ field.splitOnP isSeparator) => eq_false_of_mem_splitOnP h
  revert hparts
  generalize field.splitOnP isSeparator = parts
  intro hparts
  induction parts with
  | nil => rfl
  | cons part parts ih =>
      have hpart : key (trim isStripped part) = fold part := by
        rw [← fold_trim part]
        refine key_eq_fold fun c hc => hparts part (by simp) c ?_
        exact (List.dropWhile_sublist _).subset
          (List.mem_reverse.1 ((List.dropWhile_sublist _).subset (List.mem_reverse.1 hc)))
      have hnil : fold part = [] ↔ trim isStripped part = [] := by
        rw [fold_eq_nil_iff, trim_eq_nil_iff]
      have ih := ih fun other h => hparts other (List.mem_cons_of_mem _ h)
      by_cases h : trim isStripped part = []
      · simpa [h, hnil.2 h] using ih
      · simpa [h, mt hnil.1 h, hpart] using ih

/-- A name in a field has a key. -/
theorem key_ne_nil {name field : List Char} (h : name ∈ displayNames field) : key name ≠ [] := by
  intro hnil
  refine nil_not_mem_keys field ?_
  rw [keys_eq_map_key, ← hnil]
  exact List.mem_map_of_mem h

/-! ## Characters of keys -/

theorem mem_fold_iff {c : Char} {s : List Char} :
    c ∈ fold s ↔ ∃ d ∈ s, isStripped d = false ∧ (narrow d).toLower = c := by
  simp [fold, foldCase, and_assoc]

theorem mem_fold_of_mem_key {c : Char} {name : List Char} (h : c ∈ key name) : c ∈ fold name :=
  (List.mem_filter.1 h).1

/-- The keys of names are made of characters of the folded field. -/
theorem mem_fold_of_mem_displayNames {c : Char} {name field : List Char}
    (hname : name ∈ displayNames field) (h : c ∈ key name) : c ∈ fold field := by
  have hkeys : key name ∈ keys field := by
    rw [keys_eq_map_key]
    exact List.mem_map_of_mem hname
  have hpart : key name ∈ (fold field).splitOnP (· = separator) := (List.mem_filter.1 hkeys).1
  have hwithin :=
    (mem_splitOnP_iff_between (separator_not_mem_key name) (key_ne_nil hname)).1 hpart
  have hmem : c ∈ separator :: fold field ++ [separator] := hwithin.subset (by simp [h])
  have hcomma : c ≠ separator := fun heq => separator_not_mem_key name (heq ▸ h)
  simpa [hcomma] using hmem

theorem foldCase_key (name : List Char) : foldCase (key name) = key name := by
  refine (List.map_congr_left fun c hc => ?_).trans (List.map_id _)
  obtain ⟨d, -, -, rfl⟩ := mem_fold_iff.1 (mem_fold_of_mem_key hc)
  exact toLower_toLower (narrow d)

theorem isStripped_toLower (c : Char) : isStripped c.toLower = isStripped c := by
  have hletters : strippedChars.all (fun d => d.toNat < 65 || 122 < d.toNat) = true := by decide
  have hsame : ∀ d ∈ strippedChars, (c.toLower = d ↔ c = d) := by
    intro d hd
    have hplain : d.toNat < 65 ∨ 122 < d.toNat := by
      simpa using List.all_eq_true.1 hletters d hd
    rcases hplain with hlt | hgt
    · exact toLower_eq_iff_of_lt hlt
    · exact toLower_eq_iff_of_gt hgt
  rw [Bool.eq_iff_iff]
  unfold isStripped
  rw [List.contains_iff_mem, List.contains_iff_mem]
  constructor
  · intro h
    exact (hsame _ h).1 rfl ▸ h
  · intro h
    exact ((hsame c h).2 rfl).symm ▸ h

theorem narrow_ne_wideSeparator (c : Char) : narrow c ≠ wideSeparator := by
  unfold narrow
  split
  · decide
  · assumption

/-- A key holds no comma of either width and no blank. -/
theorem not_isSeparator_of_mem_key {c : Char} {name : List Char} (h : c ∈ key name) :
    isSeparator c = false ∧ isStripped c = false := by
  have hcomma : c ≠ separator := fun heq => separator_not_mem_key name (heq ▸ h)
  obtain ⟨d, -, hkept, rfl⟩ := mem_fold_iff.1 (mem_fold_of_mem_key h)
  have hwide : (narrow d).toLower ≠ wideSeparator := fun heq =>
    narrow_ne_wideSeparator d ((toLower_eq_iff_of_gt (by decide)).1 heq)
  refine ⟨?_, ?_⟩
  · simp [isSeparator, hwide, hcomma]
  · rw [isStripped_toLower, isStripped_narrow, hkept]

theorem separator_not_mem_of_mem_keys {k field : List Char} (h : k ∈ keys field) :
    separator ∉ k := by
  rw [keys_eq_map_key] at h
  obtain ⟨name, -, rfl⟩ := List.mem_map.1 h
  exact separator_not_mem_key name

/-! ## Names in folded fields -/

theorem isSeparator_toLower (c : Char) : isSeparator c.toLower = isSeparator c := by
  have hcomma : c.toLower = separator ↔ c = separator := toLower_eq_iff_of_lt (by decide)
  have hwide : c.toLower = wideSeparator ↔ c = wideSeparator := toLower_eq_iff_of_gt (by decide)
  unfold isSeparator
  simp only [hcomma, hwide]

theorem toLower_narrow_toLower (c : Char) : (narrow c.toLower).toLower = (narrow c).toLower := by
  have hwide : c.toLower = wideSeparator ↔ c = wideSeparator := toLower_eq_iff_of_gt (by decide)
  unfold narrow
  simp only [hwide]
  split
  · rfl
  · exact toLower_toLower c

/-- A name and its folded form have one key. -/
theorem key_foldCase (name : List Char) : key (foldCase name) = key name := by
  have hfold : fold (foldCase name) = fold name := by
    induction name with
    | nil => rfl
    | cons c name ih =>
        show fold (c.toLower :: foldCase name) = _
        rw [fold_cons, fold_cons, isStripped_toLower, toLower_narrow_toLower, ih]
  rw [key, key, hfold]

theorem trim_foldCase (s : List Char) :
    trim isStripped (foldCase s) = foldCase (trim isStripped s) := by
  have hstripped : isStripped ∘ Char.toLower = isStripped := funext isStripped_toLower
  unfold trim foldCase
  rw [List.dropWhile_map, hstripped, ← List.map_reverse, List.dropWhile_map, hstripped,
    List.map_reverse]

/-- The names in a folded field are the folded names. -/
theorem displayNames_foldCase (field : List Char) :
    displayNames (foldCase field) = (displayNames field).map foldCase := by
  have hsplit : (foldCase field).splitOnP isSeparator =
      (field.splitOnP isSeparator).map foldCase :=
    splitOnP_map Char.toLower isSeparator_toLower field
  have hempty : ∀ s : List Char, decide (foldCase s ≠ []) = decide (s ≠ []) := by
    intro s
    cases s <;> rfl
  have htrim : trim isStripped ∘ foldCase = foldCase ∘ trim isStripped := funext trim_foldCase
  unfold displayNames
  rw [hsplit, List.map_map, htrim, ← List.map_map, List.filter_map]
  exact congrArg (List.map foldCase) (List.filter_congr fun s _ => hempty s)

end AudioLibrary.Credits
