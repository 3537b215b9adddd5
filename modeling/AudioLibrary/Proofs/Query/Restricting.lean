import AudioLibrary.Proofs.Query.Faithful

/-!
# Filters that restrict a result

`FilterSpec.hasFilters` says whether anything but the search text and the order is set.  What a host
wants to know is whether that restricts a result: `FilterSpec.Restricts`, the query is another one
than that of the order alone.

A query without predicates is shorter than one with predicates, so a filter restricts a result
exactly if it has a predicate there (`restricts_iff`).  The flag is set exactly if this is so, or if
voice actors are requested of whom none has a key: `hasFilters_iff_restricts`.  These are set, but a
name without a key asks for nothing.
-/

namespace AudioLibrary

open AudioLibrary.Relational

/-- Whether the query of a shape is another one than that of the order alone, the search text
aside. -/
def FilterSpec.Restricts (spec : FilterSpec) (shape : Shape) : Prop :=
  let query := LibraryQuery.compile shape spec.withoutTextQuery
  let plain := LibraryQuery.compile shape (({} : FilterSpec).withSort spec.sort)
  ¬ (query.statement.sql = plain.statement.sql ∧
    query.statement.arguments = plain.statement.arguments)

theorem SortedSet.not_isEmpty_iff {α : Type} [Ord α] [Std.LawfulEqOrd α] [Std.TransOrd α]
    {set : SortedSet α} : (!set.isEmpty) = true ↔ set ≠ ∅ := by
  unfold isEmpty
  rw [Bool.not_eq_true', List.isEmpty_eq_false_iff, Ne, toList_eq_nil_iff]

/-! ## Queries without predicates -/

theorem unlessEmpty_eq_nil_iff {α : Type} {predicate : List α → Predicate} {items : List α} :
    unlessEmpty predicate items = [] ↔ items = [] := by
  cases items with
  | nil => exact iff_of_true rfl rfl
  | cons item items => exact iff_of_false (List.cons_ne_nil _ _) (List.cons_ne_nil _ _)

theorem actorPredicates_eq_nil_iff {keys : List String} :
    actorPredicates keys = [] ↔ keys = [] := by
  cases keys with
  | nil => exact iff_of_true rfl rfl
  | cons key others => exact iff_of_false (List.cons_ne_nil _ _) (List.cons_ne_nil _ _)

theorem toList_map_eq_nil_iff {α : Type} {f : α → Predicate} {o : Option α} :
    (o.map f).toList = [] ↔ o = none := by
  cases o with
  | none => exact iff_of_true rfl rfl
  | some a => exact iff_of_false (List.cons_ne_nil _ _) (Option.some_ne_none a)

/-- A filter has no predicate if none of its parts asks for anything. -/
theorem predicates_eq_nil_iff {spec : FilterSpec} {shape : Shape} (hshape : shape.album? = none) :
    spec.predicates shape = [] ↔
      spec.searchText = none ∧ spec.includeTags = ∅ ∧ spec.excludeTags = ∅ ∧
        spec.actorKeys = ∅ ∧ spec.circles = ∅ ∧ spec.effectiveSource = none := by
  rw [predicates_eq, hshape]
  simp only [List.append_eq_nil_iff, toList_map_eq_nil_iff, unlessEmpty_eq_nil_iff,
    actorPredicates_eq_nil_iff, SortedSet.toList_eq_nil_iff, and_assoc, true_and]

namespace LibraryQuery

/-- A query with predicates is longer than one without. -/
theorem predicates_eq_nil_of_sql_eq (spec plain : FilterSpec) {shape : Shape}
    (hsort : spec.sort = plain.sort) (hplain : plain.predicates shape = [])
    (h : (compile shape spec).statement.sql = (compile shape plain).statement.sql) :
    spec.predicates shape = [] := by
  have hsplit : ∀ spec : FilterSpec, spec.predicates shape = spec.boundPredicates shape ++
      (spec.effectiveSource.map Predicate.fromSource).toList := fun spec => predicates_eq spec shape
  obtain ⟨hbound, hsource⟩ := List.append_eq_nil_iff.1 ((hsplit plain).symm.trans hplain)
  have hchars : (compile shape spec).statement.render.chars =
      (compile shape plain).statement.render.chars := by
    rw [← Rendered.toList_sql, ← Rendered.toList_sql]
    exact congrArg String.toList h
  rw [chars_compile, chars_compile, hsort, hbound, toList_map_eq_nil_iff.1 hsource] at hchars
  have hwhole := List.append_cancel_right (List.append_cancel_right hchars)
  rw [List.append_assoc, List.append_assoc] at hwhole
  -- nothing stands between the head and the groups of the plain query
  obtain ⟨hwhere, hrestriction⟩ := List.append_eq_nil_iff.1 (List.append_cancel_left hwhole)
  have hnone : spec.boundPredicates shape = [] := by
    cases hspec : spec.boundPredicates shape with
    | nil => rfl
    | cons p ps =>
        rw [hspec] at hwhere
        cases hwhere
  have hall : spec.effectiveSource = none := eq_of_sourceText_eq hrestriction
  rw [hsplit, hnone, hall]
  rfl

end LibraryQuery

namespace FilterSpec

variable {spec : FilterSpec} {shape : Shape}

/-- **A filter restricts a result exactly if it has a predicate there.** -/
theorem restricts_iff (hshape : shape.album? = none) :
    spec.Restricts shape ↔ spec.withoutTextQuery.predicates shape ≠ [] := by
  have hplain : (({} : FilterSpec).withSort spec.sort).predicates shape = [] :=
    (predicates_eq_nil_iff hshape).2 ⟨rfl, rfl, rfl, rfl, rfl, rfl⟩
  refine not_congr ⟨fun ⟨hsql, _⟩ => ?_, fun hnone => ?_⟩
  · exact LibraryQuery.predicates_eq_nil_of_sql_eq spec.withoutTextQuery
      (({} : FilterSpec).withSort spec.sort) rfl hplain hsql
  · have hsame : LibraryQuery.compile shape spec.withoutTextQuery =
        LibraryQuery.compile shape (({} : FilterSpec).withSort spec.sort) := by
      unfold LibraryQuery.compile
      rw [hnone, hplain]
      rfl
    rw [hsame]
    exact ⟨rfl, rfl⟩

/-! ## The flag -/

theorem hasFilters_iff :
    spec.hasFilters = true ↔
      spec.includeTags ≠ ∅ ∨ spec.excludeTags ≠ ∅ ∨ spec.voiceActors ≠ ∅ ∨ spec.circles ≠ ∅ ∨
        spec.effectiveSource ≠ none := by
  unfold hasFilters effectiveSource
  simp only [Bool.or_eq_true, SortedSet.not_isEmpty_iff, or_assoc]
  refine or_congr_right (or_congr_right (or_congr_right (or_congr_right ?_)))
  rcases spec.source with _ | source
  · decide
  · cases source <;> decide

/-- Who has a key is requested. -/
theorem voiceActors_ne_of_actorKeys_ne (h : spec.actorKeys ≠ ∅) : spec.voiceActors ≠ ∅ := by
  intro hnone
  refine h ((actorKeys_eq_empty_iff spec).2 fun name hname => ?_)
  rw [hnone] at hname
  exact absurd hname (SortedSet.not_mem_empty name)

/-- **The flag is set exactly if the filter restricts the result, or if voice actors are requested
of whom none has a key.** -/
theorem hasFilters_iff_restricts (hshape : shape.album? = none) :
    (spec.Restricts shape ↔ spec.withoutTextQuery.predicates shape ≠ []) ∧
      (spec.hasFilters = true ↔
        spec.Restricts shape ∨ (spec.voiceActors ≠ ∅ ∧ spec.actorKeys = ∅)) := by
  have hrestricts : spec.Restricts shape ↔ _ := restricts_iff hshape
  refine ⟨hrestricts, ?_⟩
  have hparts : spec.withoutTextQuery.predicates shape = [] ↔ spec.includeTags = ∅ ∧
      spec.excludeTags = ∅ ∧ spec.actorKeys = ∅ ∧ spec.circles = ∅ ∧
        spec.effectiveSource = none :=
    (predicates_eq_nil_iff hshape).trans (and_iff_right rfl)
  rw [hasFilters_iff, hrestricts]
  simp only [ne_eq, hparts, not_and_or]
  by_cases hkeys : spec.actorKeys = ∅
  · simp only [hkeys, not_true_eq_false, false_or, and_true, or_comm, or_left_comm]
  · have hactors : spec.voiceActors ≠ ∅ := voiceActors_ne_of_actorKeys_ne hkeys
    simp only [hkeys, hactors, not_false_eq_true, true_or, or_true]

/-- Excluded tags restrict the headers, next to a voice actor without a key. -/
theorem hasFilters_iff_restricts_excluding :
    let spec : FilterSpec :=
      { textQuery := some "rain", excludeTags := .ofList [⟨7⟩], voiceActors := .ofList [","] }
    Shape.headers.album? = none ∧ spec.hasFilters = true ∧ spec.Restricts .headers := by
  intro spec
  have hheaders : Shape.headers.album? = none := rfl
  have hrestricts : spec.Restricts .headers ↔ _ := (hasFilters_iff_restricts hheaders).1
  have hflag : spec.hasFilters = true ↔ _ := (hasFilters_iff_restricts hheaders).2
  have hpredicates : spec.withoutTextQuery.predicates .headers ≠ [] := by decide
  exact ⟨rfl, hflag.2 (Or.inl (hrestricts.2 hpredicates)), hrestricts.2 hpredicates⟩

/-- **The flag is set for a voice actor without a key, who restricts nothing.** -/
theorem hasFilters_of_separator :
    let spec := ({} : FilterSpec).toggleVoiceActor ","
    spec.hasFilters = true ∧ ∀ shape, shape.album? = none → ¬ spec.Restricts shape := by
  intro spec
  refine ⟨by decide, fun shape hshape hrestricts => (restricts_iff hshape).1 hrestricts ?_⟩
  exact (predicates_eq_nil_iff hshape).2 ⟨rfl, rfl, rfl, by decide, rfl, rfl⟩

end FilterSpec

end AudioLibrary
