import AudioLibrary.Preset.Stored
import AudioLibrary.Proofs.Filter.Stored
import AudioLibrary.Proofs.Time.Timestamp

/-!
# Presets, stored and read

A list of presets is read back from its stored text, if each was made at an instant that there is;
and such are all presets that a stored text spells.
-/

namespace AudioLibrary.Preset

theorem isProper_toJson (p : Preset) : p.toJson.IsProper := by
  refine Json.isProper_record ?_
  simp only [List.forall_mem_cons, List.not_mem_nil, false_implies, implies_true, and_true]
  exact ⟨trivial, trivial, p.spec.isProper_toJson, trivial⟩

/-- A preset is read back from its tree. -/
theorem ofJson?_toJson {p : Preset} (hp : p.createdAt.IsProper) : ofJson? p.toJson = some p := by
  have hfields : p.toJson.allFields? memberNames = some _ :=
    Json.allFields?_record (by simp [memberNames]) (by simp)
  have hread : ∀ fields, fields.lookup "created_at" =
      some (Json.ofString (Time.Timestamp.print p.createdAt)) →
      Json.required? fields "created_at" (fun j => j.string?.bind Time.Timestamp.parse?) =
        some p.createdAt := by
    intro fields hlookup
    refine Json.required?_of_lookup hlookup ?_
    rw [Json.string?_ofString, Option.bind_some]
    exact Time.Timestamp.parse?_print hp
  unfold ofJson?
  rw [hfields]
  simp only [Option.bind_eq_bind, Option.bind_some]
  rw [Json.required?_of_lookup rfl (Json.string?_ofString p.id),
    Json.required?_of_lookup rfl (Json.string?_ofString p.name),
    Json.required?_of_lookup rfl (FilterSpec.ofJson?_toJson p.spec),
    hread _ rfl]
  rfl

/-- **A stored list of presets is read back.** -/
theorem parseAll?_renderAll {presets : List Preset}
    (h : ∀ p ∈ presets, p.createdAt.IsProper) : parseAll? (renderAll presets) = some presets := by
  have hproper : (Json.array (presets.map toJson)).IsProper :=
    Json.isProper_array_map fun p _ => p.isProper_toJson
  unfold parseAll? renderAll
  rw [Json.parse?_render hproper]
  exact Json.list?_array_map fun p hp => ofJson?_toJson (h p hp)

theorem isProper_of_ofJson? {j : Json} {p : Preset} (h : ofJson? j = some p) :
    p.createdAt.IsProper := by
  unfold ofJson? at h
  simp only [Option.bind_eq_bind, Option.bind_eq_some_iff] at h
  obtain ⟨fields, -, id, -, name, -, spec, -, time, htime, h⟩ := h
  obtain rfl := Option.some.inj h
  unfold Json.required? at htime
  simp only [Option.bind_eq_bind, Option.bind_eq_some_iff] at htime
  obtain ⟨_, -, _, -, hread⟩ := htime
  exact Time.Timestamp.isProper_of_parse? hread

theorem exists_of_mem_mapM {α β : Type} {read : α → Option β} {as : List α} {bs : List β}
    (h : as.mapM read = some bs) : ∀ b ∈ bs, ∃ a ∈ as, read a = some b := by
  induction as generalizing bs with
  | nil =>
      obtain rfl := Option.some.inj h
      intro b hb
      cases hb
  | cons a as ih =>
      simp only [List.mapM_cons, Option.bind_eq_bind, Option.bind_eq_some_iff] at h
      obtain ⟨c, hc, cs, hcs, h⟩ := h
      obtain rfl := Option.some.inj h
      intro b hb
      rcases List.mem_cons.1 hb with rfl | hb
      · exact ⟨a, List.mem_cons_self, hc⟩
      · obtain ⟨d, hd, hread⟩ := ih hcs b hb
        exact ⟨d, List.mem_cons_of_mem a hd, hread⟩

/-- Every preset that a stored text spells was made at an instant that there is. -/
theorem isProper_of_parseAll? {text : String} {presets : List Preset}
    (h : parseAll? text = some presets) : ∀ p ∈ presets, p.createdAt.IsProper := by
  intro p hp
  unfold parseAll? at h
  obtain ⟨j, -, hlist⟩ := Option.bind_eq_some_iff.1 h
  cases j with
  | array items =>
      obtain ⟨item, -, hread⟩ := exists_of_mem_mapM hlist p hp
      exact isProper_of_ofJson? hread
  | _ => cases hlist

end AudioLibrary.Preset
