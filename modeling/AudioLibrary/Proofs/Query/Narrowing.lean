import AudioLibrary.Proofs.Filter.Spec
import AudioLibrary.Proofs.Query.Arrangement

/-!
# Filters that narrow and filters that widen

A filter that selects less gives part of the result, in the same order: `rows_sublist`.  So it is
enough to see what a change of a filter does to what it selects.  One more tag, included or
excluded, and a longer text narrow; so does the first circle, actor or source.  One more circle or
actor beside others widens.

Actors without a key do not count, neither as the first nor as others.
-/

namespace AudioLibrary

open AudioLibrary.Relational

variable {s : Store} {spec other : FilterSpec} {shape : Shape} {row : Row}

/-! ## Longer texts -/

/-- Where a word is found by its pattern, a word within it is. -/
theorem Predicate.holds_containing_of_infix {v : Value} {inner word : String}
    (hnul : '\x00' ∉ word.toList) (hinner : inner.toList <:+: word.toList)
    (h : (Condition.likeTruth v (containing word).toValue).holds = true) :
    (Condition.likeTruth v (containing inner).toValue).holds = true := by
  obtain ⟨places, hplaces, hlike⟩ := holds_likeTruth_iff.1 h
  rw [String.toList_ofList] at hlike
  refine holds_likeTruth_iff.2 ⟨places, hplaces, ?_⟩
  rw [String.toList_ofList]
  exact like_containing_of_infix hnul hinner hlike

/-! ## What a filter selects -/

namespace FilterSpec

/-- A filter that includes one more tag selects less. -/
theorem Selects.of_insert_included {id : TagId}
    (h : ({ spec with includeTags := spec.includeTags.insert id } : FilterSpec).Selects s shape
      row) : spec.Selects s shape row :=
  { h with included := fun id' hid => h.included id' (SortedSet.mem_insert.2 (Or.inr hid)) }

/-- A filter that excludes one more tag selects less. -/
theorem Selects.of_insert_excluded {id : TagId}
    (h : ({ spec with excludeTags := spec.excludeTags.insert id } : FilterSpec).Selects s shape
      row) : spec.Selects s shape row :=
  { h with excluded := fun id' hid => h.excluded id' (SortedSet.mem_insert.2 (Or.inr hid)) }

/-- A filter without circles selects more than any with circles. -/
theorem Selects.of_circles (hnone : spec.circles = ∅) {circles : SortedSet String}
    (h : ({ spec with circles } : FilterSpec).Selects s shape row) : spec.Selects s shape row :=
  { h with circles := Or.inl hnone }

/-- A filter whose actors have no keys selects more than any with other actors. -/
theorem Selects.of_voiceActors (hnone : spec.actorKeys = ∅) {voiceActors : SortedSet String}
    (h : ({ spec with voiceActors } : FilterSpec).Selects s shape row) :
    spec.Selects s shape row :=
  { h with actors := Or.inl hnone }

/-- A filter without a source selects more than any with a source. -/
theorem Selects.of_source (hnone : spec.source = none ∨ spec.source = some .both)
    {source : Option SourceFilter} (h : (spec.withSource source).Selects s shape row) :
    spec.Selects s shape row := by
  refine { h with source := fun source hsource => ?_ }
  obtain rfl : source = .both := by
    rcases hnone with hnone | hboth
    · rw [hnone] at hsource
      cases hsource
    · exact Option.some_inj.1 (hsource.symm.trans hboth)
  exact trivial

/-- A filter that searches for a longer text selects less. -/
theorem Selects.of_textQuery {textQuery : Option String}
    (h : ({ spec with textQuery } : FilterSpec).Selects s shape row)
    (htext : ∀ word, spec.searchText = some word →
      ∃ longer, ({ spec with textQuery } : FilterSpec).searchText = some longer ∧
        '\x00' ∉ longer.toList ∧ word.toList <:+: longer.toList) :
    spec.Selects s shape row := by
  refine { h with text := fun word hword => ?_ }
  obtain ⟨longer, hlonger, hnul, hwithin⟩ := htext word hword
  obtain ⟨v, hv, hlike⟩ := h.text longer hlonger
  exact ⟨v, hv, Predicate.holds_containing_of_infix hnul hwithin hlike⟩

/-- A filter with one more circle beside others selects more. -/
theorem Selects.insert_circle (hsome : spec.circles ≠ ∅) {circle : String}
    (h : spec.Selects s shape row) :
    ({ spec with circles := spec.circles.insert circle } : FilterSpec).Selects s shape row := by
  obtain ⟨c, hc, hvalue⟩ := h.circles.resolve_left hsome
  exact { h with circles := Or.inr ⟨c, SortedSet.mem_insert.2 (Or.inr hc), hvalue⟩ }

/-- A filter with one more actor beside others that have keys selects more. -/
theorem Selects.insert_voiceActor (hsome : spec.actorKeys ≠ ∅) {name : String}
    (h : spec.Selects s shape row) :
    ({ spec with voiceActors := spec.voiceActors.insert name } : FilterSpec).Selects s shape
      row := by
  obtain ⟨key, hkey, hlike⟩ := h.actors.resolve_left hsome
  obtain ⟨n, hn, hne, hname⟩ := (spec.mem_actorKeys_iff key).1 hkey
  have hkey' := (mem_actorKeys_iff { spec with voiceActors := spec.voiceActors.insert name } key).2
    ⟨n, SortedSet.mem_insert.2 (Or.inr hn), hne, hname⟩
  exact { h with actors := Or.inr ⟨key, hkey', hlike⟩ }

end FilterSpec

/-! ## Results -/

/-- A filter that selects less gives part of the result, in its order. -/
theorem Shape.rows_sublist (hs : s.Sound) (shape : Shape) (hsort : other.sort = spec.sort)
    (hselects : ∀ row, other.Selects s shape row → spec.Selects s shape row) :
    ((LibraryQuery.compile shape other).statement.rows s.tables).Sublist
      ((LibraryQuery.compile shape spec).statement.rows s.tables) := by
  have hsubset : shape.itemsOf s other ⊆ shape.itemsOf s spec := by
    intro item hitem
    obtain ⟨row, hrow, hitem, hselected⟩ := (mem_itemsOf_iff hs shape).1 hitem
    exact (mem_itemsOf_iff hs shape).2 ⟨row, hrow, hitem, hselects row hselected⟩
  rw [rows_eq_map_shown hs, rows_eq_map_shown hs]
  refine List.Sublist.map _ ?_
  exact sublist_of_subset_of_sorted (hsort ▸ pairwise_itemsOf hs shape other)
    (pairwise_itemsOf hs shape spec) hsubset

/-- **Filters are monotone.**  One more tag to include or to exclude, a first circle, a first actor
with a key, a first source, or a text with what has been searched for within it gives part of the
result, in its order; one more circle beside others, or one more actor beside others of which one
has a key, gives a result of which the old one is part. -/
theorem rows_monotone (hs : s.Sound) (shape : Shape) (spec : FilterSpec) :
    let rows (spec : FilterSpec) := (LibraryQuery.compile shape spec).statement.rows s.tables
    (∀ id, (rows { spec with includeTags := spec.includeTags.insert id }).Sublist (rows spec)) ∧
    (∀ id, (rows { spec with excludeTags := spec.excludeTags.insert id }).Sublist (rows spec)) ∧
    (∀ circle, spec.circles = ∅ →
      (rows { spec with circles := spec.circles.insert circle }).Sublist (rows spec)) ∧
    (∀ name, (∀ actor ∈ spec.voiceActors, Credits.key actor.toList = []) →
      (rows { spec with voiceActors := spec.voiceActors.insert name }).Sublist (rows spec)) ∧
    (∀ source, spec.source = none ∨ spec.source = some .both →
      (rows (spec.withSource source)).Sublist (rows spec)) ∧
    (∀ text, '\x00' ∉ text.toList →
      (∀ word, spec.searchText = some word → word.toList <:+: text.toList) →
        (rows { spec with textQuery := some text }).Sublist (rows spec) ∧
        (rows (spec.withTextQuery text)).Sublist (rows spec)) ∧
    (∀ circle, spec.circles ≠ ∅ →
      (rows spec).Sublist (rows { spec with circles := spec.circles.insert circle })) ∧
    ∀ name, (∃ actor ∈ spec.voiceActors, Credits.key actor.toList ≠ []) →
      (rows spec).Sublist (rows { spec with voiceActors := spec.voiceActors.insert name }) := by
  intro rows
  have hkeys := spec.actorKeys_eq_empty_iff
  refine ⟨?_, ?_, ?_, ?_, ?_, ?_, ?_, ?_⟩
  · intro id
    exact shape.rows_sublist hs rfl fun _ h => h.of_insert_included
  · intro id
    exact shape.rows_sublist hs rfl fun _ h => h.of_insert_excluded
  · intro circle hnone
    exact shape.rows_sublist hs rfl fun _ h => h.of_circles hnone
  · intro name hnone
    exact shape.rows_sublist hs rfl fun _ h => h.of_voiceActors (hkeys.2 hnone)
  · intro source hnone
    exact shape.rows_sublist hs rfl fun _ h => h.of_source hnone
  · intro text hnul hwithin
    -- what counts is trimmed, be it by the call that sets the text or later
    have htext : ∀ word, spec.searchText = some word → ∃ longer,
        FilterSpec.nonBlank text = some longer ∧ '\x00' ∉ longer.toList ∧
          word.toList <:+: longer.toList := by
      intro word hword
      obtain ⟨old, -, hcounts⟩ := Option.bind_eq_some_iff.1 hword
      obtain ⟨longer, hlonger, hfound⟩ := FilterSpec.exists_nonBlank_of_infix
        (hwithin word hword) (FilterSpec.nonBlank_of_nonBlank hcounts)
      refine ⟨longer, hlonger, fun hmem => hnul ?_, hfound⟩
      rw [(FilterSpec.nonBlank_eq_some_iff.1 hlonger).1] at hmem
      exact (Text.isInfix_trim _ _).subset hmem
    have hset : ({ spec with textQuery := some text } : FilterSpec).searchText =
        FilterSpec.nonBlank text := FilterSpec.searchText_of_some rfl
    have hcall := spec.searchText_withTextQuery text
    obtain ⟨textQuery, hquery⟩ : ∃ textQuery, spec.withTextQuery text = { spec with textQuery } :=
      ⟨_, rfl⟩
    refine ⟨?_, ?_⟩
    · rw [← hset] at htext
      exact shape.rows_sublist hs rfl fun _ h => h.of_textQuery htext
    · rw [hquery] at hcall ⊢
      rw [← hcall] at htext
      exact shape.rows_sublist hs rfl fun _ h => h.of_textQuery htext
  · intro circle hsome
    exact shape.rows_sublist hs rfl fun _ h => h.insert_circle hsome
  · rintro name ⟨actor, hactor, hkey⟩
    exact shape.rows_sublist hs rfl fun _ h =>
      h.insert_voiceActor fun hnone => hkey (hkeys.1 hnone actor hactor)

/-- An album is found by a text with a blank and by a longer text without, and still by one circle
or actor more. -/
theorem rows_monotone_sample :
    let s := Store.sample "one"
    let rows (spec : FilterSpec) := (LibraryQuery.compile .albums spec).statement.rows s.tables
    let short : FilterSpec := { textQuery := some "o " }
    let named : FilterSpec := { circles := .ofList [""], voiceActors := .ofList ["Hana"] }
    s.Sound ∧ '\x00' ∉ "one".toList ∧
      (∀ word, short.searchText = some word → word.toList <:+: "one".toList) ∧
      short.circles = ∅ ∧ (∀ actor ∈ short.voiceActors, Credits.key actor.toList = []) ∧
      named.circles ≠ ∅ ∧ (∃ actor ∈ named.voiceActors, Credits.key actor.toList ≠ []) ∧
      rows { textQuery := some "one" } ≠ [] ∧
      (rows { short with textQuery := some "one" }).Sublist (rows short) ∧
      (rows { short with circles := short.circles.insert "" }).Sublist (rows short) ∧
      (rows { short with voiceActors := short.voiceActors.insert "Hana" }).Sublist (rows short) ∧
      (rows (short.withSource (some .localOnly))).Sublist (rows short) ∧
      rows named ≠ [] ∧
      (rows named).Sublist (rows { named with circles := named.circles.insert "b" }) ∧
      (rows named).Sublist (rows { named with voiceActors := named.voiceActors.insert "b" }) := by
  intro s rows short named
  have hs : s.Sound := by decide
  have hnul : '\x00' ∉ "one".toList := by decide
  have hwithin : ∀ word, short.searchText = some word → word.toList <:+: "one".toList := by
    intro word hword
    obtain rfl := Option.some_inj.1 hword
    decide
  have hactors : ∀ actor ∈ short.voiceActors, Credits.key actor.toList = [] :=
    fun actor hactor => absurd hactor (SortedSet.not_mem_empty actor)
  have hcircles : named.circles ≠ ∅ := by decide
  have hactor : ∃ actor ∈ named.voiceActors, Credits.key actor.toList ≠ [] :=
    ⟨"Hana", by decide, by decide⟩
  obtain ⟨-, -, hcircle, hvoice, hsource, htext, -, -⟩ := rows_monotone hs .albums short
  obtain ⟨-, -, -, -, -, -, hmoreCircles, hmoreActors⟩ := rows_monotone hs .albums named
  exact ⟨hs, hnul, hwithin, rfl, hactors, hcircles, hactor, by decide +kernel,
    (htext "one" hnul hwithin).1, hcircle "" rfl, hvoice "Hana" hactors,
    hsource (some .localOnly) (Or.inl rfl), by decide +kernel, hmoreCircles "b" hcircles,
    hmoreActors "b" hactor⟩

end AudioLibrary
