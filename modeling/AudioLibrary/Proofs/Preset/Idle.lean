import AudioLibrary.Proofs.Preset.Steps

/-!
# Calls that leave the settings alone

A call that fails, only looks, or finds nothing to delete is idle: it leaves all settings as they
were, also a stored text that cannot be read.  So it can be left out of a run, and the others give
the same, `stepThrough_thinned`.
-/

namespace AudioLibrary

/-! ## Idle steps -/

/-- Whether a call has failed, has only looked, or has found nothing to delete. -/
def IsIdle : PresetResult → Prop
  | .error _ | .ok (.found _) | .ok (.listed _) | .ok (.deleted false) => True
  | .ok (.saved _) | .ok (.deleted true) => False

instance (result : PresetResult) : Decidable (IsIdle result) := by
  unfold IsIdle
  split <;> infer_instance

/-- Whether a call looks at the presets and changes nothing. -/
def PresetCall.looks : PresetCall → Bool
  | .find _ | .list => true
  | .save .. | .delete _ => false

/-- A step that looks is idle. -/
theorem PresetStep.isIdle_outcome_of_looks {store : PresetStore} {step : PresetStep}
    {settings : Settings} (h : step.call.looks = true) :
    IsIdle (step.outcome store settings).1 := by
  unfold outcome
  cases step.refusal? store settings.presets with
  | some e => trivial
  | none =>
      unfold answer
      cases hcall : step.call with
      | find id => trivial
      | list => trivial
      | save name spec =>
          rw [hcall] at h
          cases h
      | delete id =>
          rw [hcall] at h
          cases h

/-- An idle step writes nothing. -/
theorem PresetStep.outcome_of_isIdle {store : PresetStore} {step : PresetStep}
    {settings : Settings} (h : IsIdle (step.outcome store settings).1) :
    (step.outcome store settings).2 = settings := by
  unfold outcome at h ⊢
  cases hrefusal : step.refusal? store settings.presets with
  | some e => rfl
  | none =>
      rw [hrefusal] at h
      dsimp only at h ⊢
      unfold answer at h
      unfold replacement
      cases hcall : step.call with
      | save name spec =>
          rw [hcall] at h
          exact h.elim
      | delete id =>
          rw [hcall] at h
          dsimp only at h ⊢
          cases hany : settings.presets.any (·.id = id) with
          | false => rfl
          | true =>
              rw [hany] at h
              exact h.elim
      | find id => rfl
      | list => rfl

/-- A step fails for its refusal, and for nothing else. -/
theorem PresetStep.outcome_eq_error_iff {store : PresetStore} {step : PresetStep}
    {settings : Settings} {e : LibraryError} :
    (step.outcome store settings).1 = .error e ↔
      step.refusal? store settings.presets = some e := by
  unfold outcome
  cases step.refusal? store settings.presets with
  | some e' => simp
  | none => simp

namespace PresetStore

variable {store : PresetStore} {s : Session PresetHost}

/-- **An idle call leaves all settings as they were.** -/
theorem settings_answer_of_isIdle {call : PresetCall} (h : IsIdle (store.answer call s).1) :
    (store.answer call s).2.state.settings.settings = s.state.settings.settings := by
  obtain ⟨hresult, hsettings⟩ := store.answer_eq_outcome call s
  rw [hsettings]
  exact PresetStep.outcome_of_isIdle (hresult ▸ h)

/-- An idle step is an idle call. -/
theorem settings_attempt_of_isIdle {step : PresetStep} (h : IsIdle (store.attempt step s).1) :
    (store.attempt step s).2.state.settings.settings = s.state.settings.settings :=
  settings_answer_of_isIdle (s := { s with state := s.state.during step }) h

/-- **A call fails exactly for a blank name or as the settings do.** -/
theorem answer_eq_error_iff (call : PresetCall) (e : LibraryError) :
    (store.answer call s).1 = .error e ↔
      (s.state.step call).refusal? store s.state.stored = some e := by
  rw [(store.answer_eq_outcome call s).1]
  exact PresetStep.outcome_eq_error_iff

/-- **A call that looks is idle, whatever it gives.** -/
theorem isIdle_answer_of_looks {call : PresetCall} (h : call.looks = true) :
    IsIdle (store.answer call s).1 := by
  rw [(store.answer_eq_outcome call s).1]
  exact PresetStep.isIdle_outcome_of_looks h

end PresetStore

/-! ## Leaving idle steps out -/

/-- `Thinned p l kept` says that `kept` comes of `l` by leaving out members with `p`, all of them or
some. -/
inductive Thinned {α : Type} (p : α → Prop) : List α → List α → Prop
  | nil : Thinned p [] []
  | keep (a : α) {l kept : List α} : Thinned p l kept → Thinned p (a :: l) (a :: kept)
  | drop {a : α} {l kept : List α} : p a → Thinned p l kept → Thinned p (a :: l) kept

/-- The steps of a run with what each gives. -/
def PresetStore.trace (store : PresetStore) (steps : List PresetStep) (s : Session PresetHost) :
    List (PresetStep × PresetResult) :=
  steps.zip (stepThrough store.attempt steps s).1

/-- **Without idle steps the others give the same.** -/
theorem PresetStore.stepThrough_thinned (store : PresetStore) (steps : List PresetStep)
    (s : Session PresetHost) {kept : List (PresetStep × PresetResult)}
    (h : Thinned (fun entry => IsIdle entry.2) (store.trace steps s) kept) :
    (stepThrough store.attempt (kept.map Prod.fst) s).1 = kept.map Prod.snd := by
  induction steps generalizing s kept with
  | nil =>
      obtain rfl : kept = [] := by
        cases h
        rfl
      rfl
  | cons step steps ih =>
      have htrace : store.trace (step :: steps) s =
          (step, (store.attempt step s).1) :: store.trace steps (store.attempt step s).2 := rfl
      rw [htrace] at h
      cases h with
      | keep _ hrest =>
          show _ :: _ = _ :: _
          rw [ih _ hrest]
      | drop hidle hrest =>
          -- the rest starts from the same settings, with the idle step and without it
          rw [← ih _ hrest]
          exact store.stepThrough_attempt_congr _ (settings_attempt_of_isIdle hidle).symm

end AudioLibrary
