import AudioLibrary.Proofs.Preset.Shelf

/-!
# Calls with what the host gives them

A `PresetStep` is a call together with all that the host gives it: an id, an instant, and the
failures of the settings, which may be others in each step.  A call asks for an id and an instant
once at most, and reads and writes the settings once at most, so that steps are all that can happen
to calls one after another: `stepThrough_answer_eq_attempt`.

What a call gives and what it leaves behind is its `outcome`, which looks at the settings alone:
`answer_eq_outcome`.
-/

namespace AudioLibrary

/-- What a call gives, or why it fails. -/
abbrev PresetResult := Except LibraryError PresetAnswer

/-- A call and what the host gives it: an id and an instant, if it asks for them, and the errors
with which the settings refuse to be read or written. -/
structure PresetStep where
  call : PresetCall
  id : String := ""
  time : Time.Instant := default
  readFailure : Option BridgeError := none
  writeFailure : Option BridgeError := none

/-- A call as a host performs it next. -/
def PresetHost.step (host : PresetHost) (call : PresetCall) : PresetStep where
  call
  id := host.ids.draw.1
  time := host.clock.read.1
  readFailure := host.settings.readFailure
  writeFailure := host.settings.writeFailure

/-! ## The outcome of a step -/

/-- The presets that stand in settings; none if there is no text, or none that can be read. -/
def Settings.presets (settings : Settings) : List Preset :=
  ((settings.get? PresetStore.key).bind Preset.parseAll?).getD []

/-- Settings with another list of presets. -/
def Settings.storing (settings : Settings) (presets : List Preset) : Settings :=
  settings.set PresetStore.key (Preset.renderAll presets)

/-- The list that was stored is the one that is read. -/
theorem Settings.presets_storing (settings : Settings) {presets : List Preset}
    (h : ∀ p ∈ presets, p.createdAt.IsProper) : (settings.storing presets).presets = presets := by
  unfold Settings.presets Settings.storing
  rw [Settings.get?_set_self, Option.bind_some, Preset.parseAll?_renderAll h, Option.getD_some]

/-- What stands in settings can be stored again. -/
theorem Settings.isProper_of_mem_presets (settings : Settings) :
    ∀ p ∈ settings.presets, p.createdAt.IsProper :=
  PresetHost.isProper_of_mem_stored
    { settings := { settings }, clock := .steady 0 0, ids := .numbered "" }

/-- Whether a call is refused for its name. -/
def PresetCall.isBlank : PresetCall → Bool
  | .save name _ => Text.trimBlanks name = ""
  | .delete _ | .find _ | .list => false

namespace PresetStep

/-- The preset that a step saves under a name. -/
def preset (step : PresetStep) (name : String) (spec : FilterSpec) : Preset :=
  { id := step.id, name := Text.trimBlanks name, spec, createdAt := step.time }

/-- What a step gives if nothing fails. -/
def answer (step : PresetStep) (presets : List Preset) : PresetAnswer :=
  match step.call with
  | .save name spec => .saved (step.preset name spec)
  | .delete id => .deleted (presets.any (·.id = id))
  | .find id => .found (presets.find? (·.id = id))
  | .list => .listed presets

/-- The list that a step writes, if it writes one. -/
def replacement (store : PresetStore) (step : PresetStep) (presets : List Preset) :
    Option (List Preset) :=
  match step.call with
  | .save name spec => some (store.appended presets (step.preset name spec))
  | .delete id => if presets.any (·.id = id) then some (PresetStore.without presets id) else none
  | .find _ | .list => none

/-- Why a step fails: for a blank name, or as the settings do when they are read or written.  What
writes nothing does not meet a failure to write. -/
def refusal? (store : PresetStore) (step : PresetStep) (presets : List Preset) :
    Option LibraryError :=
  if step.call.isBlank then some (.invalidInput "name" "preset name must not be blank")
  else (step.readFailure.or
    (if (step.replacement store presets).isSome then step.writeFailure else none)).map .bridge

/-- What a step gives, and the settings after it. -/
def outcome (store : PresetStore) (step : PresetStep) (settings : Settings) :
    PresetResult × Settings :=
  match step.refusal? store settings.presets with
  | some e => (.error e, settings)
  | none =>
      (.ok (step.answer settings.presets),
        ((step.replacement store settings.presets).map settings.storing).getD settings)

/-- What is saved has nothing to do with the list. -/
theorem answer_eq_saved {step : PresetStep} {presets presets' : List Preset} {p : Preset}
    (h : step.answer presets = .saved p) : step.answer presets' = .saved p := by
  unfold answer at h ⊢
  cases hcall : step.call with
  | save name spec =>
      rw [hcall] at h
      exact h
  | _ =>
      rw [hcall] at h
      cases h

/-- What a step comes to when its name is not blank and the settings work. -/
theorem outcome_of_works {store : PresetStore} {step : PresetStep} {settings : Settings}
    (hblank : step.call.isBlank = false)
    (hfailures : step.readFailure = none ∧ step.writeFailure = none) :
    step.outcome store settings = (.ok (step.answer settings.presets),
      ((step.replacement store settings.presets).map settings.storing).getD settings) := by
  have hrefusal : step.refusal? store settings.presets = none := by
    unfold refusal?
    rw [hblank, hfailures.1, hfailures.2]
    simp
  unfold outcome
  rw [hrefusal]

/-- What a step writes can be stored. -/
theorem isProper_of_replacement {store : PresetStore} {step : PresetStep}
    {presets written : List Preset}
    (htime : step.time.IsProper) (h : ∀ p ∈ presets, p.createdAt.IsProper)
    (hwritten : step.replacement store presets = some written) :
    ∀ p ∈ written, p.createdAt.IsProper := by
  unfold replacement at hwritten
  split at hwritten
  · cases hwritten
    exact store.isProper_of_mem_appended h htime
  · split at hwritten
    · cases hwritten
      intro p hp
      exact h p (List.mem_filter.1 hp).1
    · cases hwritten
  · cases hwritten
  · cases hwritten

/-- The list after a step. -/
def listAfter (store : PresetStore) (step : PresetStep) (presets : List Preset) : List Preset :=
  if (step.refusal? store presets).isSome then presets
  else (step.replacement store presets).getD presets

/-- The presets that stand in the settings after a step. -/
theorem presets_outcome {store : PresetStore} {step : PresetStep} {settings : Settings}
    (htime : step.time.IsProper) :
    (step.outcome store settings).2.presets = step.listAfter store settings.presets := by
  unfold outcome listAfter
  cases step.refusal? store settings.presets with
  | some e => rfl
  | none =>
      cases hwritten : step.replacement store settings.presets with
      | none => rfl
      | some written =>
          exact settings.presets_storing
            (isProper_of_replacement htime settings.isProper_of_mem_presets hwritten)

end PresetStep

namespace PresetStore

/-! ## Calls -/

section Calls

variable {store : PresetStore} {call : PresetCall} {s s' : Session PresetHost}
  {settings : Settings} {α : Type} {g : α → PresetAnswer} {x : Action LibraryError PresetHost α}

/-- Whether a call gives a result and leaves settings behind. -/
def Ends (store : PresetStore) (call : PresetCall) (s : Session PresetHost)
    (result : PresetResult × Settings) : Prop :=
  (store.answer call s).1 = result.1 ∧
    (store.answer call s).2.state.settings.settings = result.2

theorem ends_of_ok {a : α} (hcall : store.perform call = g <$> x) (hrun : x.run s = (.ok a, s'))
    (hsettings : s'.state.settings.settings = settings) :
    store.Ends call s (.ok (g a), settings) := by
  unfold Ends
  rw [answer_of_ok hcall hrun]
  exact ⟨rfl, hsettings⟩

theorem ends_of_error {e : LibraryError} (hcall : store.perform call = g <$> x)
    (hrun : x.run s = (.error e, s')) (hsettings : s'.state.settings.settings = settings) :
    store.Ends call s (.error e, settings) := by
  unfold Ends
  rw [answer_of_error hcall hrun]
  exact ⟨rfl, hsettings⟩

theorem ends_save (store : PresetStore) (name : String) (spec : FilterSpec)
    (s : Session PresetHost) :
    store.Ends (.save name spec) s
      ((s.state.step (.save name spec)).outcome store s.state.settings.settings) := by
  unfold PresetStep.outcome PresetStep.refusal? PresetStep.replacement PresetStep.answer
    PresetCall.isBlank
  simp only [PresetHost.step, Option.isSome_some, if_true, Option.map_some, Option.getD_some,
    decide_eq_true_eq]
  by_cases hname : Text.trimBlanks name = ""
  · rw [if_pos hname]
    exact ends_of_error (perform_save store name spec) (run_save_blank store spec hname s) rfl
  rw [if_neg hname]
  let made := made s.state (Text.trimBlanks name) spec
  -- a name that is not blank is made a preset before the settings are looked at
  have hsave : ∀ r s', (store.append made).run { s with state := afterMaking s.state } = (r, s') →
      (store.save name spec).run s = (r.map fun _ => made, s') := by
    intro r s' hrun
    unfold save
    rw [Action.run_bind_ok (run_prepare spec hname s)]
    cases r with
    | ok => exact Action.run_bind_ok hrun
    | error e => exact Action.run_bind_error hrun
  cases hread : s.state.settings.readFailure with
  | some e =>
      have hlist := run_list_of_failure (s := { s with state := afterMaking s.state }) hread
      have hrun := hsave _ _ (Action.run_bind_error (f := store.addTo made) hlist)
      exact ends_of_error (perform_save store name spec) hrun rfl
  | none =>
      obtain ⟨s₁, hlist, hstate⟩ := run_list (s := { s with state := afterMaking s.state }) hread
      have happend := Action.run_bind_ok (f := store.addTo made) hlist
      cases hwrite : s.state.settings.writeFailure with
      | some e =>
          obtain ⟨s₂, hadd, hsame⟩ := run_addTo_of_failure (s := s₁) store made s.state.stored
            (by rw [hstate]; exact hwrite)
          refine ends_of_error (perform_save store name spec) (hsave _ _ (happend.trans hadd)) ?_
          rw [hsame, hstate]
          rfl
      | none =>
          obtain ⟨s₂, hadd, hafter⟩ := run_addTo (s := s₁) store made s.state.stored
            (by rw [hstate]; exact hwrite)
          refine ends_of_ok (perform_save store name spec) (hsave _ _ (happend.trans hadd)) ?_
          rw [hafter, hstate]
          rfl

theorem ends_delete (store : PresetStore) (id : String) (s : Session PresetHost) :
    store.Ends (.delete id) s
      ((s.state.step (.delete id)).outcome store s.state.settings.settings) := by
  have hperform : store.perform (.delete id) = PresetAnswer.deleted <$> delete id := rfl
  have hstored : s.state.settings.settings.presets = s.state.stored := rfl
  unfold PresetStep.outcome PresetStep.refusal? PresetStep.replacement PresetStep.answer
    PresetCall.isBlank
  simp only [PresetHost.step, Bool.false_eq_true, if_false, hstored]
  cases hread : s.state.settings.readFailure with
  | some e =>
      have hdelete := Action.run_bind_error (f := removeFrom id) (run_list_of_failure hread)
      exact ends_of_error hperform hdelete rfl
  | none =>
      obtain ⟨s₁, hlist, hstate⟩ := run_list hread
      have hdelete := Action.run_bind_ok (f := removeFrom id) hlist
      rw [← hstate]
      cases hany : s₁.state.stored.any (·.id = id) with
      | false =>
          rw [← hstate, run_removeFrom_of_none hany] at hdelete
          exact ends_of_ok hperform hdelete rfl
      | true =>
          cases hwrite : s₁.state.settings.writeFailure with
          | some e =>
              rw [← hstate, run_removeFrom_of_failure hany hwrite] at hdelete
              exact ends_of_error hperform hdelete rfl
          | none =>
              obtain ⟨s₂, hremove, hafter⟩ := run_removeFrom hany hwrite
              rw [← hstate, hremove] at hdelete
              refine ends_of_ok hperform hdelete ?_
              rw [hafter]
              rfl

theorem ends_find (store : PresetStore) (id : String) (s : Session PresetHost) :
    store.Ends (.find id) s
      ((s.state.step (.find id)).outcome store s.state.settings.settings) := by
  have hperform : store.perform (.find id) = PresetAnswer.found <$> find id := rfl
  unfold PresetStep.outcome PresetStep.refusal? PresetStep.replacement PresetStep.answer
    PresetCall.isBlank
  dsimp only [PresetHost.step]
  cases hread : s.state.settings.readFailure with
  | some e =>
      exact ends_of_error hperform (Action.run_bind_error (run_list_of_failure hread)) rfl
  | none =>
      obtain ⟨s₁, hfind, hstate⟩ := run_find hread id
      exact ends_of_ok hperform hfind (by rw [hstate]; rfl)

theorem ends_list (store : PresetStore) (s : Session PresetHost) :
    store.Ends .list s ((s.state.step .list).outcome store s.state.settings.settings) := by
  have hperform : store.perform .list = PresetAnswer.listed <$> list := rfl
  unfold PresetStep.outcome PresetStep.refusal? PresetStep.replacement PresetStep.answer
    PresetCall.isBlank
  dsimp only [PresetHost.step]
  cases hread : s.state.settings.readFailure with
  | some e => exact ends_of_error hperform (run_list_of_failure hread) rfl
  | none =>
      obtain ⟨s₁, hlist, hstate⟩ := run_list hread
      exact ends_of_ok hperform hlist (by rw [hstate]; rfl)

end Calls

/-- **What a call gives and leaves behind is its outcome on the host.** -/
theorem answer_eq_outcome (store : PresetStore) (call : PresetCall) (s : Session PresetHost) :
    store.Ends call s ((s.state.step call).outcome store s.state.settings.settings) := by
  cases call with
  | save name spec => exact ends_save store name spec s
  | delete id => exact ends_delete store id s
  | find id => exact ends_find store id s
  | list => exact ends_list store s

end PresetStore

/-! ## Steps -/

/-- The host as it is during a step. -/
def PresetHost.during (host : PresetHost) (step : PresetStep) : PresetHost where
  settings :=
    { settings := host.settings.settings
      readFailure := step.readFailure
      writeFailure := step.writeFailure }
  clock := { instant := fun _ => step.time }
  ids := { id := fun _ => step.id }

namespace PresetStore

/-- What a step gives, and the session after it. -/
def attempt (store : PresetStore) (step : PresetStep) (s : Session PresetHost) :
    PresetResult × Session PresetHost :=
  store.answer step.call { s with state := s.state.during step }

/-- **What a step gives and leaves behind is its outcome.** -/
theorem attempt_eq_outcome (store : PresetStore) (step : PresetStep) (s : Session PresetHost) :
    (store.attempt step s).1 = (step.outcome store s.state.settings.settings).1 ∧
      (store.attempt step s).2.state.settings.settings =
        (step.outcome store s.state.settings.settings).2 :=
  store.answer_eq_outcome step.call { s with state := s.state.during step }

/-- The stored list after a step. -/
theorem stored_attempt (store : PresetStore) {step : PresetStep} (htime : step.time.IsProper)
    (s : Session PresetHost) :
    (store.attempt step s).2.state.stored = step.listAfter store s.state.stored := by
  have hpresets := congrArg Settings.presets (store.attempt_eq_outcome step s).2
  exact hpresets.trans (PresetStep.presets_outcome htime)

/-- **The stored list after a run.** -/
theorem stored_stepThrough (store : PresetStore) {steps : List PresetStep}
    (htimes : ∀ step ∈ steps, step.time.IsProper) (s : Session PresetHost) :
    (stepThrough store.attempt steps s).2.state.stored =
      steps.foldl (fun presets step => step.listAfter store presets) s.state.stored := by
  induction steps generalizing s with
  | nil => rfl
  | cons step steps ih =>
      rw [List.forall_mem_cons] at htimes
      rw [List.foldl_cons, ← store.stored_attempt htimes.1]
      exact ih htimes.2 _

/-- The steps that a run of calls consists of on a host. -/
def stepsOf (store : PresetStore) : List PresetCall → Session PresetHost → List PresetStep
  | [], _ => []
  | call :: calls, s => s.state.step call :: stepsOf store calls (store.answer call s).2

/-- **Every run of calls is a run of steps.** -/
theorem stepThrough_answer_eq_attempt (store : PresetStore) (calls : List PresetCall)
    {s t : Session PresetHost} (h : s.state.settings.settings = t.state.settings.settings) :
    (stepThrough store.answer calls s).1 =
      (stepThrough store.attempt (store.stepsOf calls s) t).1 := by
  induction calls generalizing s t with
  | nil => rfl
  | cons call calls ih =>
      obtain ⟨hresult, hsettings⟩ := store.answer_eq_outcome call s
      obtain ⟨hresult', hsettings'⟩ := store.attempt_eq_outcome (s.state.step call) t
      rw [h] at hresult hsettings
      show (store.answer call s).1 :: _ = (store.attempt (s.state.step call) t).1 :: _
      rw [hresult, hresult', ih (hsettings.trans hsettings'.symm)]

/-- The results of a run depend on the settings that it starts from, and on nothing else. -/
theorem stepThrough_attempt_congr (store : PresetStore) (steps : List PresetStep)
    {s t : Session PresetHost} (h : s.state.settings.settings = t.state.settings.settings) :
    (stepThrough store.attempt steps s).1 = (stepThrough store.attempt steps t).1 := by
  refine (stepThrough_related
    (R := fun s t => s.state.settings.settings = t.state.settings.settings) ?_ steps h).1
  intro step s t hst
  obtain ⟨hresult, hsettings⟩ := store.attempt_eq_outcome step s
  obtain ⟨hresult', hsettings'⟩ := store.attempt_eq_outcome step t
  rw [hresult, hresult', hsettings, hsettings', hst]
  exact ⟨rfl, rfl⟩

end PresetStore

end AudioLibrary
