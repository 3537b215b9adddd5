import AudioLibrary.Filter.Spec
import AudioLibrary.Proofs.Credits
import AudioLibrary.Proofs.Text.Trimming

/-!
# What counts of the texts of a filter

Blanks around a text do not count, and a text of blanks alone does not count at all.  For circles
and the search text blank is any white space, for voice actors what normalization drops; so a name
of an actor is trimmed to a name with the same key.
-/

namespace AudioLibrary.FilterSpec

open AudioLibrary.Text

theorem nonBlank_of_ne {text : String} (h : trimBlanks text ≠ "") :
    nonBlank text = some (trimBlanks text) :=
  if_neg fun hempty => h (String.isEmpty_iff.1 hempty)

theorem nonBlank_of_eq {text : String} (h : trimBlanks text = "") : nonBlank text = none :=
  if_pos (String.isEmpty_iff.2 h)

theorem toList_trimBlanks (text : String) :
    (trimBlanks text).toList = trim isBlank text.toList :=
  String.toList_ofList

/-- What counts of a text is the text trimmed, if that leaves anything. -/
theorem nonBlank_eq_some_iff {text word : String} :
    nonBlank text = some word ↔ word.toList = trim isBlank text.toList ∧ word.toList ≠ [] := by
  rw [← toList_trimBlanks, String.toList_inj]
  by_cases h : trimBlanks text = ""
  · rw [nonBlank_of_eq h, h]
    refine iff_of_false nofun ?_
    rintro ⟨rfl, hne⟩
    exact hne rfl
  · rw [nonBlank_of_ne h, Option.some_inj]
    constructor
    · rintro rfl
      exact ⟨rfl, fun hnil => h (String.toList_inj.1 hnil)⟩
    · rintro ⟨rfl, -⟩
      rfl

/-- What counts of what counts is all of it. -/
theorem nonBlank_of_nonBlank {text word : String} (h : nonBlank text = some word) :
    nonBlank word = some word := by
  obtain ⟨hword, hne⟩ := nonBlank_eq_some_iff.1 h
  refine nonBlank_eq_some_iff.2 ⟨?_, hne⟩
  rw [hword, (isTrimmed_trim isBlank text.toList).trim_eq]

/-- What counts of a text stands in what counts of a longer one. -/
theorem exists_nonBlank_of_infix {inner text word : String}
    (hinner : inner.toList <:+: text.toList) (hword : nonBlank inner = some word) :
    ∃ longer, nonBlank text = some longer ∧ word.toList <:+: longer.toList := by
  obtain ⟨htrim, hne⟩ := nonBlank_eq_some_iff.1 hword
  have hwithin : word.toList <:+: trim isBlank text.toList := htrim ▸ trim_infix_trim hinner
  refine ⟨String.ofList (trim isBlank text.toList), nonBlank_eq_some_iff.2 ?_, ?_⟩
  · rw [String.toList_ofList]
    refine ⟨rfl, fun hnil => hne ?_⟩
    rwa [hnil, List.infix_nil] at hwithin
  · rwa [String.toList_ofList]

theorem searchText_of_some {spec : FilterSpec} {text : String} (h : spec.textQuery = some text) :
    spec.searchText = nonBlank text := by
  unfold searchText
  rw [h, Option.bind_some]

theorem searchText_withTextQuery (spec : FilterSpec) (text : String) :
    (spec.withTextQuery text).searchText = nonBlank text := by
  unfold searchText withTextQuery
  dsimp only
  cases h : nonBlank text with
  | none => rfl
  | some word => rw [Option.bind_some, nonBlank_of_nonBlank h]

/-! ## Picking a name -/

theorem toggleCircle_of_ne {circle : String} (h : trimBlanks circle ≠ "") :
    ({} : FilterSpec).toggleCircle circle =
      { circles := (∅ : SortedSet String).insert (trimBlanks circle) } := by
  unfold toggleCircle
  rw [nonBlank_of_ne h]
  rfl

theorem toggleCircle_of_blank {circle : String} (h : trimBlanks circle = "") :
    ({} : FilterSpec).toggleCircle circle = {} := by
  unfold toggleCircle
  rw [nonBlank_of_eq h]

/-- A name is trimmed before it is put into the filter. -/
theorem toggleVoiceActor_of_key {actor : String} (hkey : Credits.key actor.toList ≠ []) :
    ({} : FilterSpec).toggleVoiceActor actor =
      { voiceActors := (∅ : SortedSet String).insert
          (String.ofList (trim Credits.isStripped actor.toList)) } := by
  have hne : ¬ (String.ofList (trim Credits.isStripped actor.toList)).isEmpty = true := by
    rw [String.isEmpty_iff, ← String.toList_inj, String.toList_ofList]
    intro hnil
    refine hkey ?_
    rw [← Credits.key_trim, show trim Credits.isStripped actor.toList = [] from hnil]
    rfl
  have hname : actorName actor =
      some (String.ofList (trim Credits.isStripped actor.toList)) := if_neg hne
  unfold toggleVoiceActor
  rw [hname]
  rfl

end AudioLibrary.FilterSpec
