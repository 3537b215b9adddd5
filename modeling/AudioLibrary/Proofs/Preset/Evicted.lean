import AudioLibrary.Proofs.Preset.Steps

/-!
# Presets that are dropped

A save drops the presets at the front of the list when there are too many.  Nothing else goes: a
preset is there after a run if it was there before, no step deletes its id and no save drops it,
`mem_stored_stepThrough`.
-/

namespace AudioLibrary

/-- The presets that a step drops because there are too many: a save makes the list longer by one,
and what is then beyond the capacity goes at the front. -/
def PresetStep.evicted (store : PresetStore) (step : PresetStep) (presets : List Preset) :
    List Preset :=
  match step.call with
  | .save name spec =>
      (presets ++ [step.preset name spec]).take (presets.length + 1 - store.capacity)
  | .delete _ | .find _ | .list => []

/-- The presets that a run drops. -/
def PresetStore.evicted (store : PresetStore) :
    List PresetStep → Session PresetHost → List Preset
  | [], _ => []
  | step :: steps, s =>
      step.evicted store s.state.stored ++ evicted store steps (store.attempt step s).2

variable {store : PresetStore} {step : PresetStep} {p : Preset}

/-- A save drops what is beyond the capacity, at the front, and keeps the rest. -/
theorem PresetStore.take_append_appended (store : PresetStore) (presets : List Preset)
    (preset : Preset) :
    (presets ++ [preset]).take (presets.length + 1 - store.capacity) ++
      store.appended presets preset = presets ++ [preset] := by
  have hlength : (presets ++ [preset]).length = presets.length + 1 := List.length_append
  rw [← hlength]
  exact List.take_append_drop _ _

theorem PresetStore.mem_appended {presets : List Preset} {preset : Preset}
    (hp : p ∈ presets ++ [preset])
    (hkept : p ∉ (presets ++ [preset]).take (presets.length + 1 - store.capacity)) :
    p ∈ store.appended presets preset := by
  rw [← store.take_append_appended presets preset] at hp
  exact (List.mem_append.1 hp).resolve_left hkept

/-- What is neither deleted nor dropped stays. -/
theorem PresetStep.mem_listAfter {presets : List Preset} (hp : p ∈ presets)
    (hdelete : step.call ≠ .delete p.id) (hkept : p ∉ step.evicted store presets) :
    p ∈ step.listAfter store presets := by
  unfold listAfter
  split
  · exact hp
  · unfold evicted at hkept
    unfold replacement
    cases hcall : step.call with
    | save name spec =>
        rw [hcall] at hkept
        exact PresetStore.mem_appended (List.mem_append_left _ hp) hkept
    | delete id =>
        rw [hcall] at hdelete
        dsimp only
        split
        · refine List.mem_filter.2 ⟨hp, decide_eq_true fun heq => ?_⟩
          exact hdelete (congrArg PresetCall.delete heq.symm)
        · exact hp
    | find id => exact hp
    | list => exact hp

namespace PresetStore

/-- **What no step of a run deletes or drops stays.** -/
theorem mem_stored_stepThrough {steps : List PresetStep} {s : Session PresetHost}
    (htimes : ∀ step ∈ steps, step.time.IsProper) (hp : p ∈ s.state.stored)
    (hdelete : ∀ step ∈ steps, step.call ≠ .delete p.id) (hkept : p ∉ store.evicted steps s) :
    p ∈ (stepThrough store.attempt steps s).2.state.stored := by
  induction steps generalizing s with
  | nil => exact hp
  | cons step steps ih =>
      rw [List.forall_mem_cons] at htimes hdelete
      obtain ⟨hstep, hsteps⟩ := not_or.1 (mt List.mem_append.2 hkept)
      refine ih htimes.2 ?_ hdelete.2 hsteps
      rw [store.stored_attempt htimes.1]
      exact PresetStep.mem_listAfter hp hdelete.1 hstep

/-- What is saved is there, unless it is dropped at once. -/
theorem mem_stored_of_saved {s : Session PresetHost} (htime : step.time.IsProper)
    (hsaved : (store.attempt step s).1 = .ok (.saved p))
    (hkept : p ∉ step.evicted store s.state.stored) :
    p ∈ (store.attempt step s).2.state.stored := by
  have hstored : s.state.settings.settings.presets = s.state.stored := rfl
  rw [store.stored_attempt htime]
  rw [(store.attempt_eq_outcome step s).1] at hsaved
  unfold PresetStep.outcome at hsaved
  unfold PresetStep.listAfter
  rw [hstored] at hsaved
  cases hrefusal : step.refusal? store s.state.stored with
  | some e =>
      rw [hrefusal] at hsaved
      cases hsaved
  | none =>
      rw [hrefusal] at hsaved
      have hanswer := Except.ok.inj hsaved
      unfold PresetStep.answer at hanswer
      unfold PresetStep.evicted at hkept
      unfold PresetStep.replacement
      cases hcall : step.call with
      | save name spec =>
          rw [hcall] at hanswer hkept
          obtain rfl := PresetAnswer.saved.inj hanswer
          exact mem_appended (List.mem_append_right _ (List.mem_singleton.2 rfl)) hkept
      | _ =>
          rw [hcall] at hanswer
          cases hanswer

end PresetStore

end AudioLibrary
