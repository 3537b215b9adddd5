import AudioLibrary.Preset.Store
import AudioLibrary.Proofs.Action
import AudioLibrary.Proofs.Preset.Stored

/-!
# The calls of a preset store

What each call gives and what it leaves behind, in terms of the list that the stored text stands
for, `PresetHost.stored`.  The settings are taken to work, and the log is left aside.
-/

namespace AudioLibrary

/-- Whether instants are given as they are written and read back. -/
def Time.Clock.IsProper (c : Time.Clock) : Prop := ∀ n, (c.instant n).IsProper

namespace PresetHost

/-- The presets that the stored text spells; none if there is no text, or none that can be read. -/
def stored (host : PresetHost) : List Preset :=
  ((host.settings.settings.get? PresetStore.key).bind Preset.parseAll?).getD []

/-- Whether the settings can be read and written. -/
def Works (host : PresetHost) : Prop :=
  host.settings.readFailure = none ∧ host.settings.writeFailure = none

/-- The host with another list stored. -/
def storing (host : PresetHost) (presets : List Preset) : PresetHost :=
  { host with
    settings :=
      { host.settings with
        settings := host.settings.settings.set PresetStore.key (Preset.renderAll presets) } }

@[simp] theorem storing_ids (host : PresetHost) (presets : List Preset) :
    (host.storing presets).ids = host.ids := rfl

@[simp] theorem storing_clock (host : PresetHost) (presets : List Preset) :
    (host.storing presets).clock = host.clock := rfl

/-- What was stored is there. -/
theorem stored_storing (host : PresetHost) {presets : List Preset}
    (h : ∀ p ∈ presets, p.createdAt.IsProper) : (host.storing presets).stored = presets := by
  show (((host.settings.settings.set PresetStore.key (Preset.renderAll presets)).get?
    PresetStore.key).bind Preset.parseAll?).getD [] = _
  rw [Settings.get?_set_self, Option.bind_some, Preset.parseAll?_renderAll h, Option.getD_some]

/-- What is stored can be stored again. -/
theorem isProper_of_mem_stored (host : PresetHost) : ∀ p ∈ host.stored, p.createdAt.IsProper := by
  intro p hp
  unfold stored at hp
  cases hread : (host.settings.settings.get? PresetStore.key).bind Preset.parseAll? with
  | none =>
      rw [hread] at hp
      cases hp
  | some presets =>
      rw [hread] at hp
      obtain ⟨text, -, hparse⟩ := Option.bind_eq_some_iff.1 hread
      exact Preset.isProper_of_parseAll? hparse p hp

end PresetHost

namespace PresetStore

variable {s : Session PresetHost}

/-! ## The parts of a call -/

theorem run_list (hread : s.state.settings.readFailure = none) :
    ∃ s', list.run s = (.ok s.state.stored, s') ∧ s'.state = s.state := by
  have hread : readText.run s = (.ok (s.state.settings.settings.get? key), s) := by
    show ((s.state.settings.read key).mapError LibraryError.bridge, s) = _
    unfold SettingsStore.read
    rw [hread]
    rfl
  unfold list
  rw [Action.run_bind_ok hread]
  unfold PresetHost.stored
  cases s.state.settings.settings.get? key with
  | none => exact ⟨s, rfl, rfl⟩
  | some text =>
      dsimp only
      rw [Option.bind_some]
      cases Preset.parseAll? text with
      | some presets => exact ⟨s, rfl, rfl⟩
      | none => exact ⟨_, rfl, rfl⟩

/-- A list that cannot be read is not given. -/
theorem run_list_of_failure {e : BridgeError} (hread : s.state.settings.readFailure = some e) :
    list.run s = (.error (.bridge e), s) := by
  refine Action.run_bind_error ?_
  show ((s.state.settings.read key).mapError LibraryError.bridge, s) = _
  unfold SettingsStore.read
  rw [hread]
  rfl

theorem run_writeAll (hwrite : s.state.settings.writeFailure = none) (presets : List Preset) :
    (writeAll presets).run s = (.ok (), { s with state := s.state.storing presets }) := by
  have hwrite : s.state.settings.write key (Preset.renderAll presets) =
      .ok (s.state.storing presets).settings := by
    unfold SettingsStore.write
    split
    · next e hfailure =>
        rw [hwrite] at hfailure
        cases hfailure
    · rfl
  have hbridge : (Action.ofBridge (s.state.settings.write key (Preset.renderAll presets))).run s =
      (.ok (s.state.storing presets).settings, s) := by
    show ((s.state.settings.write key (Preset.renderAll presets)).mapError
      LibraryError.bridge, s) = _
    rw [hwrite]
    rfl
  have hstate : (Action.getState : Action LibraryError PresetHost PresetHost).run s =
      (.ok s.state, s) := rfl
  unfold writeAll
  rw [Action.run_bind_ok hstate, Action.run_bind_ok hbridge]
  rfl

/-- A list that cannot be written leaves everything as it was. -/
theorem run_writeAll_of_failure {e : BridgeError}
    (hwrite : s.state.settings.writeFailure = some e) (presets : List Preset) :
    (writeAll presets).run s = (.error (.bridge e), s) := by
  have hstate : (Action.getState : Action LibraryError PresetHost PresetHost).run s =
      (.ok s.state, s) := rfl
  unfold writeAll
  rw [Action.run_bind_ok hstate]
  refine Action.run_bind_error ?_
  show ((s.state.settings.write key (Preset.renderAll presets)).mapError
    LibraryError.bridge, s) = _
  unfold SettingsStore.write
  rw [hwrite]
  rfl

/-- What a save does with the list that it has read. -/
def addTo (store : PresetStore) (preset : Preset) (presets : List Preset) :
    Action LibraryError PresetHost Unit := do
  let dropped := store.overflow (presets ++ [preset])
  if 0 < dropped then
    Action.emit (droppedEvent dropped)
  let kept := store.appended presets preset
  writeAll kept
  Action.emit (savedEvent preset.id kept.length)

/-- What a deletion does with the list that it has read. -/
def removeFrom (id : String) (presets : List Preset) : Action LibraryError PresetHost Bool := do
  let kept := without presets id
  if kept.length = presets.length then
    return false
  writeAll kept
  Action.emit (deletedEvent id)
  return true

theorem append_eq (store : PresetStore) (preset : Preset) :
    store.append preset = list >>= store.addTo preset := rfl

theorem delete_eq (id : String) : delete id = list >>= removeFrom id := rfl

/-- A dropped preset is told of, and nothing else changes before the list is written. -/
theorem exists_run_addTo_eq (store : PresetStore) (preset : Preset) (presets : List Preset)
    (s : Session PresetHost) :
    ∃ s₁, s₁.state = s.state ∧ (store.addTo preset presets).run s =
      (writeAll (store.appended presets preset) >>= fun _ =>
        Action.emit (savedEvent preset.id (store.appended presets preset).length)).run s₁ := by
  unfold addTo
  dsimp only
  split
  · refine ⟨_, ?_, Action.run_bind_ok (Action.run_emit _ s)⟩
    rfl
  · exact ⟨s, rfl, rfl⟩

theorem run_addTo (store : PresetStore) (preset : Preset) (presets : List Preset)
    (hwrite : s.state.settings.writeFailure = none) :
    ∃ s', (store.addTo preset presets).run s = (.ok (), s') ∧
      s'.state = s.state.storing (store.appended presets preset) := by
  obtain ⟨s₁, hstate, hrun⟩ := exists_run_addTo_eq store preset presets s
  rw [← hstate] at hwrite ⊢
  rw [hrun, Action.run_bind_ok (run_writeAll hwrite _), Action.run_emit]
  exact ⟨_, rfl, rfl⟩

theorem run_addTo_of_failure (store : PresetStore) (preset : Preset) (presets : List Preset)
    {e : BridgeError} (hwrite : s.state.settings.writeFailure = some e) :
    ∃ s', (store.addTo preset presets).run s = (.error (.bridge e), s') ∧
      s'.state = s.state := by
  obtain ⟨s₁, hstate, hrun⟩ := exists_run_addTo_eq store preset presets s
  rw [← hstate] at hwrite ⊢
  rw [hrun, Action.run_bind_error (run_writeAll_of_failure hwrite _)]
  exact ⟨_, rfl, rfl⟩

theorem length_without_eq_iff {presets : List Preset} {id : String} :
    (without presets id).length = presets.length ↔ presets.any (·.id = id) = false := by
  unfold without
  rw [List.length_filter_eq_length_iff, List.any_eq_false]
  simp

theorem run_removeFrom_of_none {presets : List Preset} {id : String}
    (hnone : presets.any (·.id = id) = false) :
    (removeFrom id presets).run s = (.ok false, s) := by
  unfold removeFrom
  rw [if_pos (length_without_eq_iff.2 hnone)]
  rfl

/-- What is there is deleted by writing the rest. -/
theorem removeFrom_of_any {presets : List Preset} {id : String}
    (hany : presets.any (·.id = id) = true) :
    removeFrom id presets = (writeAll (without presets id) >>= fun _ =>
      Action.emit (deletedEvent id) >>= fun _ => pure true) := by
  unfold removeFrom
  refine if_neg fun hsame => ?_
  rw [length_without_eq_iff.1 hsame] at hany
  cases hany

theorem run_removeFrom {presets : List Preset} {id : String}
    (hany : presets.any (·.id = id) = true) (hwrite : s.state.settings.writeFailure = none) :
    ∃ s', (removeFrom id presets).run s = (.ok true, s') ∧
      s'.state = s.state.storing (without presets id) := by
  rw [removeFrom_of_any hany, Action.run_bind_ok (run_writeAll hwrite _),
    Action.run_bind_ok (Action.run_emit _ _)]
  exact ⟨_, rfl, rfl⟩

theorem run_removeFrom_of_failure {presets : List Preset} {id : String} {e : BridgeError}
    (hany : presets.any (·.id = id) = true) (hwrite : s.state.settings.writeFailure = some e) :
    (removeFrom id presets).run s = (.error (.bridge e), s) := by
  rw [removeFrom_of_any hany]
  exact Action.run_bind_error (run_writeAll_of_failure hwrite _)

/-! ## Calls -/

theorem run_find (hread : s.state.settings.readFailure = none) (id : String) :
    ∃ s', (find id).run s = (.ok (s.state.stored.find? (·.id = id)), s') ∧ s'.state = s.state := by
  obtain ⟨s', hlist, hstate⟩ := run_list hread
  refine ⟨s', ?_, hstate⟩
  unfold find
  rw [Action.run_bind_ok hlist]
  rfl

theorem run_delete (hworks : s.state.Works) (id : String) :
    ∃ s', (delete id).run s = (.ok (s.state.stored.any (·.id = id)), s') ∧
      (s'.state = s.state ∧ without s.state.stored id = s.state.stored ∨
        s'.state = s.state.storing (without s.state.stored id)) := by
  obtain ⟨s₁, hlist, hstate⟩ := run_list hworks.1
  rw [delete_eq, Action.run_bind_ok hlist]
  cases hany : s.state.stored.any (·.id = id) with
  | false =>
      refine ⟨s₁, run_removeFrom_of_none hany, Or.inl ⟨hstate, ?_⟩⟩
      exact List.filter_eq_self.2
        (List.length_filter_eq_length_iff.1 (length_without_eq_iff.2 hany))
  | true =>
      obtain ⟨s₂, hremove, hstored⟩ :=
        run_removeFrom (s := s₁) hany (hstate ▸ hworks.2)
      exact ⟨s₂, hremove, Or.inr (hstate ▸ hstored)⟩

/-- The preset that a save makes. -/
def made (host : PresetHost) (name : String) (spec : FilterSpec) : Preset :=
  { id := host.ids.draw.1, name, spec, createdAt := host.clock.read.1 }

/-- The host after a preset was made. -/
def afterMaking (host : PresetHost) : PresetHost :=
  { host with ids := host.ids.draw.2, clock := host.clock.read.2 }

theorem run_prepare_blank (spec : FilterSpec) {name : String}
    (hblank : Text.trimBlanks name = "") (s : Session PresetHost) :
    (prepare name spec).run s =
      (.error (.invalidInput "name" "preset name must not be blank"), s) := by
  have hchecked : checkedName name =
      .error (.invalidInput "name" "preset name must not be blank") := by
    unfold checkedName
    rw [hblank]
    rfl
  unfold prepare
  rw [hchecked]
  rfl

theorem run_save_blank (store : PresetStore) (spec : FilterSpec) {name : String}
    (hblank : Text.trimBlanks name = "") (s : Session PresetHost) :
    (store.save name spec).run s =
      (.error (.invalidInput "name" "preset name must not be blank"), s) :=
  Action.run_bind_error (run_prepare_blank spec hblank s)

theorem run_prepare (spec : FilterSpec) {name : String} (hname : Text.trimBlanks name ≠ "")
    (s : Session PresetHost) :
    (prepare name spec).run s =
      (.ok (made s.state (Text.trimBlanks name) spec),
        { s with state := afterMaking s.state }) := by
  have hchecked : checkedName name = .ok (Text.trimBlanks name) := by
    unfold checkedName
    rw [if_neg]
    simpa using hname
  unfold prepare
  rw [hchecked]
  rfl

theorem run_append (store : PresetStore) (preset : Preset) (hworks : s.state.Works) :
    ∃ s', (store.append preset).run s = (.ok (), s') ∧
      s'.state = s.state.storing (store.appended s.state.stored preset) := by
  obtain ⟨s₁, hlist, hstate⟩ := run_list hworks.1
  obtain ⟨s₂, hadd, hstored⟩ :=
    run_addTo (s := s₁) store preset s.state.stored (hstate ▸ hworks.2)
  refine ⟨s₂, ?_, hstate ▸ hstored⟩
  rw [append_eq, Action.run_bind_ok hlist, hadd]

theorem run_save (store : PresetStore) (spec : FilterSpec) {name : String}
    (hworks : s.state.Works) (hname : Text.trimBlanks name ≠ "") :
    ∃ s', (store.save name spec).run s =
        (.ok (made s.state (Text.trimBlanks name) spec), s') ∧
      s'.state = (afterMaking s.state).storing
        (store.appended s.state.stored (made s.state (Text.trimBlanks name) spec)) := by
  obtain ⟨s', happend, hstate⟩ := run_append
    (s := { s with state := afterMaking s.state }) store
    (made s.state (Text.trimBlanks name) spec) hworks
  refine ⟨s', ?_, hstate⟩
  unfold save
  rw [Action.run_bind_ok (run_prepare spec hname s), Action.run_bind_ok happend]
  rfl

/-! ## Stored forms -/

/-- **Nothing is lost in the stored forms**: a filter is read back from its text, and a list of
presets from the text that is written for it, whatever the names and the filters and whenever the
presets were made, leap seconds aside.  So the list that is written is the list that is given. -/
theorem stored_forms_lossless :
    (∀ spec : FilterSpec, FilterSpec.parse? spec.render = some spec) ∧
      ∀ presets : List Preset,
        (∀ p ∈ presets, p.createdAt.inRange = true ∧ p.createdAt.nanos < 1000000000) →
          Preset.parseAll? (Preset.renderAll presets) = some presets ∧
            ∀ s : Session PresetHost, s.state.Works →
              ∃ s₁, (writeAll presets).run s = (.ok (), s₁) ∧
                ∃ s₂, list.run s₁ = (.ok presets, s₂) ∧ s₂.state = s₁.state := by
  refine ⟨FilterSpec.parse?_render, fun presets hmade => ?_⟩
  have hproper : ∀ p ∈ presets, p.createdAt.IsProper := by
    intro p hp
    obtain ⟨hrange, hnanos⟩ := hmade p hp
    exact ⟨by omega, fun hleap => by omega, hrange⟩
  refine ⟨Preset.parseAll?_renderAll hproper, fun s hworks => ?_⟩
  refine ⟨_, run_writeAll hworks.2 presets, ?_⟩
  have hstored : (s.state.storing presets).stored = presets := s.state.stored_storing hproper
  have hlist := run_list (s := { s with state := s.state.storing presets }) hworks.1
  rwa [hstored] at hlist

/-- Escaped and blank texts, the ends of the tag ids, and the first and the last of the years. -/
theorem stored_forms_lossless_at_ends :
    let spec : FilterSpec :=
      { textQuery := some " \"rain\\\u0000\n "
        includeTags := .ofList [⟨Int64.minValue⟩, ⟨Int64.maxValue⟩]
        voiceActors := .ofList ["", "\t"], circles := .ofList [" \u2028雨 "]
        source := some .both, sort := .cvAsc }
    let presets : List Preset :=
      [{ id := "\"", name := "", spec, createdAt := ⟨-8334601228800, 123456789⟩ },
        { id := "", name := " \\ ", spec := {}, createdAt := ⟨8210266876799, 999999999⟩ }]
    (∀ p ∈ presets, p.createdAt.inRange = true ∧ p.createdAt.nanos < 1000000000) ∧
      (presets.map (·.createdAt.date.year) = [-262143, 262142]) ∧
        FilterSpec.parse? spec.render = some spec ∧
          Preset.parseAll? (Preset.renderAll presets) = some presets := by
  intro spec presets
  have hmade : ∀ p ∈ presets, p.createdAt.inRange = true ∧ p.createdAt.nanos < 1000000000 := by
    decide +kernel
  exact ⟨hmade, by decide +kernel, stored_forms_lossless.1 spec,
    (stored_forms_lossless.2 presets hmade).1⟩

end PresetStore

end AudioLibrary
