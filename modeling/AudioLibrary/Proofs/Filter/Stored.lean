import AudioLibrary.Proofs.Filter.Drifted

/-!
# Filters, stored and read

A filter is read back from its stored form as it was.
-/

namespace AudioLibrary.FilterSpec

theorem isProper_toJson (spec : FilterSpec) : spec.toJson.IsProper := by
  have htext := Json.isProper_ofOption Json.isProper_ofString spec.textQuery
  have htags : ∀ tags, (tagsToJson tags).IsProper := fun tags =>
    Json.isProper_array_map fun tag _ => Json.isProper_ofInt64 tag.value
  have hnames : ∀ names, (namesToJson names).IsProper := fun names =>
    Json.isProper_array_map fun name _ => Json.isProper_ofString name
  have hsource := Json.isProper_ofOption (fun f : SourceFilter => Json.isProper_ofString f.name)
    spec.source
  exact ⟨htext, htags _, htags _, hnames _, hnames _, hsource, trivial, trivial⟩

/-- A filter is read back from its tree. -/
theorem ofJson?_toJson (spec : FilterSpec) : ofJson? spec.toJson = some spec := by
  have hnodup : memberNames.Nodup := by decide
  apply ofJson?_of_drifted
  exact {
    once := fun name _ => List.nodup_iff_count_le_one.1 hnodup name
    textQuery := Json.give_of_mem hnodup (by simp) rfl
    includeTags := Json.give_of_mem hnodup (by simp; rfl) (Json.listsSet_toList _ _)
    excludeTags := Json.give_of_mem hnodup (by simp; rfl) (Json.listsSet_toList _ _)
    voiceActors := Json.give_of_mem hnodup (by simp; rfl) (Json.listsSet_toList _ _)
    circles := Json.give_of_mem hnodup (by simp; rfl) (Json.listsSet_toList _ _)
    source := Json.give_of_mem hnodup (by simp) rfl
    sort := Json.give_of_mem hnodup (by simp) rfl }

/-- **A stored filter is read back.** -/
theorem parse?_render (spec : FilterSpec) : parse? spec.render = some spec := by
  unfold parse? render
  rw [Json.parse?_render spec.isProper_toJson]
  exact ofJson?_toJson spec

end AudioLibrary.FilterSpec
