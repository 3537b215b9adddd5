import AudioLibrary.Proofs.Credits

/-!
# The normal form of a credit field

The normal form `,key1,key2,` is made of the keys of a field, and the keys can be read back from it:
none of them is empty or holds a comma, so between its commas stand the keys and nothing else,
`filter_splitOnP_field`.  Hence it holds `,key,` exactly for the keys of the names, and it says no
more and no less of a field than their list.
-/

namespace AudioLibrary.Credits

theorem filter_splitOnP_intercalate_keys (f : List Char) :
    ((List.intercalate [separator] (keys f)).splitOnP (· = separator)).filter (· ≠ []) =
      keys f := by
  by_cases hnone : keys f = []
  · rw [hnone]
    rfl
  · rw [splitOnP_intercalate (fun _ h => separator_not_mem_of_mem_keys h) hnone,
      List.filter_eq_self]
    intro k hk
    simpa using fun hnil : k = [] => nil_not_mem_keys f (hnil ▸ hk)

/-- **The keys of a field stand between the commas of its normal form.** -/
theorem filter_splitOnP_field (f : List Char) :
    ((field f).splitOnP (· = separator)).filter (· ≠ []) = keys f :=
  (filter_splitOnP_between separator _).trans (filter_splitOnP_intercalate_keys f)

theorem infix_field_iff {k f : List Char} (hne : k ≠ []) (hcomma : separator ∉ k) :
    separator :: k ++ [separator] <:+: field f ↔ k ∈ keys f := by
  calc separator :: k ++ [separator] <:+: field f
      ↔ k ∈ (List.intercalate [separator] (keys f)).splitOnP (· = separator) :=
        (mem_splitOnP_iff_between hcomma hne).symm
    _ ↔ k ∈ ((List.intercalate [separator] (keys f)).splitOnP (· = separator)).filter (· ≠ []) := by
        simp [hne]
    _ ↔ k ∈ keys f := by rw [filter_splitOnP_intercalate_keys]

/-- The normal form holds the keys of the names and no other. -/
theorem infix_field_iff_exists {k f : List Char} (hne : k ≠ []) (hcomma : separator ∉ k) :
    separator :: k ++ [separator] <:+: field f ↔ ∃ name ∈ displayNames f, key name = k := by
  rw [infix_field_iff hne hcomma, keys_eq_map_key, List.mem_map]

theorem field_eq_iff {f g : List Char} : field f = field g ↔ keys f = keys g := by
  constructor
  · intro h
    rw [← filter_splitOnP_field, h, filter_splitOnP_field]
  · intro h
    unfold field
    rw [h]

/-- **The normal form factors through the names.**  Every name has a key, free of commas and
blanks; the normal form is the keys of the names between commas, in their order.  So it holds a key
between commas exactly if a name has it, and two fields have one normal form exactly if their names
have the same keys. -/
theorem field_factors (f : List Char) :
    (∀ name ∈ displayNames f, key name ≠ [] ∧
      ∀ c ∈ key name, isSeparator c = false ∧ isStripped c = false) ∧
    field f =
      separator :: List.intercalate [separator] ((displayNames f).map key) ++ [separator] ∧
    (∀ k, k ≠ [] → separator ∉ k →
      (separator :: k ++ [separator] <:+: field f ↔ ∃ name ∈ displayNames f, key name = k)) ∧
    ∀ g, field f = field g ↔ (displayNames f).map key = (displayNames g).map key := by
  refine ⟨fun name hname => ?_, ?_, fun k hne hcomma => ?_, fun g => ?_⟩
  · exact ⟨key_ne_nil hname, fun c hc => not_isSeparator_of_mem_key hc⟩
  · rw [← keys_eq_map_key]
    rfl
  · exact infix_field_iff_exists hne hcomma
  · rw [field_eq_iff, keys_eq_map_key, keys_eq_map_key]

/-- Commas of both widths next to each other, a blank part, and a comma at the end. -/
theorem field_factors_untidy :
    let f := " Aoi Yuki\uff0c\u3000,Sato\tHana ,".toList
    let k := "satohana".toList
    k ≠ [] ∧ separator ∉ k ∧ field f = ",aoiyuki,satohana,".toList ∧
      separator :: k ++ [separator] <:+: field f := by
  intro f k
  have hne : k ≠ [] := by decide
  have hcomma : separator ∉ k := by decide
  obtain ⟨-, hfield, hwithin, -⟩ := field_factors f
  refine ⟨hne, hcomma, ?_, (hwithin k hne hcomma).2 ?_⟩
  · rw [hfield]
    decide
  · decide

end AudioLibrary.Credits
