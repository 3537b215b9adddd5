import AudioLibrary.Proofs.Preset.Idle
import Mathlib.Data.List.Forall2

/-!
# Calls at other instants

A failed save has read the clock, and without it the saves after it may get other instants.  These
instants are then all in which the results differ: `stepThrough_alike`.

`Alike T` says of presets, of results and of steps that they are the same but for their instants,
and that `T` holds of these.
-/

namespace AudioLibrary

/-! ## Presets and results -/

section Alike

variable {T : Time.Instant → Time.Instant → Prop}

/-- Whether two presets differ in nothing but the instants at which they were made, which are
related. -/
structure Preset.Alike (T : Time.Instant → Time.Instant → Prop) (p q : Preset) : Prop where
  id : p.id = q.id
  name : p.name = q.name
  spec : p.spec = q.spec
  createdAt : T p.createdAt q.createdAt

/-- Whether two results differ in nothing but instants, which are related. -/
inductive PresetResult.Alike (T : Time.Instant → Time.Instant → Prop) :
    PresetResult → PresetResult → Prop
  | error (e : LibraryError) : Alike T (.error e) (.error e)
  | saved {p q : Preset} : p.Alike T q → Alike T (.ok (.saved p)) (.ok (.saved q))
  | deleted (existed : Bool) : Alike T (.ok (.deleted existed)) (.ok (.deleted existed))
  | found {p q : Option Preset} :
      Option.Rel (Preset.Alike T) p q → Alike T (.ok (.found p)) (.ok (.found q))
  | listed {l m : List Preset} :
      List.Forall₂ (Preset.Alike T) l m → Alike T (.ok (.listed l)) (.ok (.listed m))

variable {l m : List Preset}

theorem Preset.any_id_of_alike (h : List.Forall₂ (Preset.Alike T) l m) (id : String) :
    (l.any fun p => p.id = id) = m.any fun p => p.id = id := by
  induction h with
  | nil => rfl
  | cons halike _ ih => rw [List.any_cons, List.any_cons, ih, halike.id]

theorem Preset.find?_id_of_alike (h : List.Forall₂ (Preset.Alike T) l m) (id : String) :
    Option.Rel (Preset.Alike T) (l.find? fun p => p.id = id) (m.find? fun p => p.id = id) := by
  induction h with
  | nil => exact .none
  | cons halike _ ih =>
      rw [List.find?_cons, List.find?_cons, halike.id]
      split
      · exact .some halike
      · exact ih

theorem PresetStore.without_of_alike (h : List.Forall₂ (Preset.Alike T) l m) (id : String) :
    List.Forall₂ (Preset.Alike T) (without l id) (without m id) := by
  unfold without
  induction h with
  | nil => exact .nil
  | cons halike _ ih =>
      rw [List.filter_cons, List.filter_cons, halike.id]
      split
      · exact .cons halike ih
      · exact ih

theorem PresetStore.appended_of_alike (store : PresetStore) {p q : Preset} (hpq : p.Alike T q)
    (h : List.Forall₂ (Preset.Alike T) l m) :
    List.Forall₂ (Preset.Alike T) (store.appended l p) (store.appended m q) := by
  have hall : List.Forall₂ (Preset.Alike T) (l ++ [p]) (m ++ [q]) :=
    List.rel_append h (.cons hpq .nil)
  unfold appended overflow
  dsimp only
  rw [hall.length_eq]
  exact List.forall₂_drop _ hall

/-- Whether two steps differ in nothing but the instants that the host gives, which are related. -/
structure PresetStep.Alike (T : Time.Instant → Time.Instant → Prop) (a b : PresetStep) : Prop where
  call : a.call = b.call
  id : a.id = b.id
  time : T a.time b.time
  readFailure : a.readFailure = b.readFailure
  writeFailure : a.writeFailure = b.writeFailure

/-! ## One step -/

namespace PresetStep

variable {a b : PresetStep}

theorem preset_of_alike (hab : a.Alike T b) (name : String) (spec : FilterSpec) :
    (a.preset name spec).Alike T (b.preset name spec) :=
  ⟨hab.id, rfl, rfl, hab.time⟩

theorem replacement_of_alike (store : PresetStore) (hab : a.Alike T b)
    (h : List.Forall₂ (Preset.Alike T) l m) :
    Option.Rel (List.Forall₂ (Preset.Alike T)) (a.replacement store l) (b.replacement store m) := by
  unfold replacement
  rw [← hab.call]
  cases a.call with
  | save name spec => exact .some (store.appended_of_alike (preset_of_alike hab name spec) h)
  | delete id =>
      dsimp only
      rw [Preset.any_id_of_alike h id]
      split
      · exact .some (PresetStore.without_of_alike h id)
      · exact .none
  | find id => exact .none
  | list => exact .none

theorem answer_of_alike (hab : a.Alike T b) (h : List.Forall₂ (Preset.Alike T) l m) :
    PresetResult.Alike T (.ok (a.answer l)) (.ok (b.answer m)) := by
  unfold answer
  rw [← hab.call]
  cases a.call with
  | save name spec => exact .saved (preset_of_alike hab name spec)
  | delete id =>
      dsimp only
      rw [Preset.any_id_of_alike h id]
      exact .deleted _
  | find id => exact .found (Preset.find?_id_of_alike h id)
  | list => exact .listed h

/-- Whether a step fails has nothing to do with instants. -/
theorem refusal?_of_alike (store : PresetStore) (hab : a.Alike T b)
    (h : List.Forall₂ (Preset.Alike T) l m) : a.refusal? store l = b.refusal? store m := by
  have hwrites : (a.replacement store l).isSome = (b.replacement store m).isSome := by
    have hwritten := replacement_of_alike store hab h
    generalize a.replacement store l = x, b.replacement store m = y at hwritten
    cases hwritten with
    | some _ => rfl
    | none => rfl
  unfold refusal?
  rw [hab.call, hab.readFailure, hab.writeFailure, hwrites]

/-- **Steps at other instants give the same, but for instants, and leave the same behind.** -/
theorem outcome_of_alike (store : PresetStore) {settings settings' : Settings}
    (hab : a.Alike T b) (ha : a.time.IsProper) (hb : b.time.IsProper)
    (h : List.Forall₂ (Preset.Alike T) settings.presets settings'.presets) :
    PresetResult.Alike T (a.outcome store settings).1 (b.outcome store settings').1 ∧
      List.Forall₂ (Preset.Alike T) (a.outcome store settings).2.presets
        (b.outcome store settings').2.presets := by
  have hrefusal := refusal?_of_alike store hab h
  constructor
  · unfold outcome
    rw [hrefusal]
    cases b.refusal? store settings'.presets with
    | some e => exact .error e
    | none => exact answer_of_alike hab h
  · rw [presets_outcome ha, presets_outcome hb]
    unfold listAfter
    rw [hrefusal]
    split
    · exact h
    · have hwritten := replacement_of_alike store hab h
      generalize a.replacement store settings.presets = x,
        b.replacement store settings'.presets = y at hwritten
      cases hwritten with
      | some hlists => exact hlists
      | none => exact h

end PresetStep

end Alike

/-! ## Runs -/

namespace PresetStore

variable {T : Time.Instant → Time.Instant → Prop}

/-- **Runs at other instants give the same, but for instants.** -/
theorem stepThrough_alike (store : PresetStore) {steps others : List PresetStep}
    (halike : List.Forall₂ (PresetStep.Alike T) steps others)
    (hsteps : ∀ step ∈ steps, step.time.IsProper) (hothers : ∀ step ∈ others, step.time.IsProper)
    {s t : Session PresetHost}
    (h : List.Forall₂ (Preset.Alike T) s.state.stored t.state.stored) :
    List.Forall₂ (PresetResult.Alike T) (stepThrough store.attempt steps s).1
      (stepThrough store.attempt others t).1 := by
  induction halike generalizing s t with
  | nil => exact .nil
  | @cons a b steps others hab _ ih =>
      rw [List.forall_mem_cons] at hsteps hothers
      have hpresets : List.Forall₂ (Preset.Alike T) s.state.settings.settings.presets
          t.state.settings.settings.presets := h
      obtain ⟨hresult, hafter⟩ :=
        PresetStep.outcome_of_alike store hab hsteps.1 hothers.1 hpresets
      obtain ⟨hs, hs'⟩ := store.attempt_eq_outcome a s
      obtain ⟨ht, ht'⟩ := store.attempt_eq_outcome b t
      -- what the first steps leave behind differs in instants alone, too
      rw [← hs, ← ht] at hresult
      rw [← hs', ← ht'] at hafter
      exact .cons hresult (ih hsteps.2 hothers.2 hafter)

end PresetStore

theorem Preset.alike_refl {T : Time.Instant → Time.Instant → Prop} (hT : ∀ t, T t t)
    (presets : List Preset) : List.Forall₂ (Preset.Alike T) presets presets :=
  List.forall₂_same.2 fun p _ => ⟨rfl, rfl, rfl, hT p.createdAt⟩

/-- **Calls that fail, only look or find nothing are inert.**  Such a call leaves all settings as
they were, whatever text they hold and whichever of reading and writing fails; and a call fails
for a blank name, or as the settings do.  A run without such calls, all of them or some, gives
the same for the others; and if these get other instants then, instants are all that differs.

`T` holds of the two instants of each call, and of an instant and itself for the presets that were
stored before. -/
theorem idle_calls_inert (store : PresetStore) (s : Session PresetHost) :
    (∀ call, (call.looks = true → IsIdle (store.answer call s).1) ∧
      (IsIdle (store.answer call s).1 →
        (store.answer call s).2.state.settings.settings = s.state.settings.settings) ∧
      ∀ e, (store.answer call s).1 = .error e ↔
        (s.state.step call).refusal? store s.state.stored = some e) ∧
    ∀ steps kept, Thinned (fun entry => IsIdle entry.2) (store.trace steps s) kept →
      (stepThrough store.attempt (kept.map Prod.fst) s).1 = kept.map Prod.snd ∧
      ∀ (T : Time.Instant → Time.Instant → Prop) (others : List PresetStep), (∀ t, T t t) →
        List.Forall₂ (PresetStep.Alike T) (kept.map Prod.fst) others →
        (∀ step ∈ kept.map Prod.fst ++ others, step.time.IsProper) →
          List.Forall₂ (PresetResult.Alike T) (kept.map Prod.snd)
            (stepThrough store.attempt others s).1 := by
  refine ⟨fun call => ⟨PresetStore.isIdle_answer_of_looks, PresetStore.settings_answer_of_isIdle,
    PresetStore.answer_eq_error_iff call⟩, ?_⟩
  intro steps kept hthinned
  have hsame := store.stepThrough_thinned steps s hthinned
  refine ⟨hsame, ?_⟩
  intro T others hT halike hproper
  rw [← hsame]
  rw [List.forall_mem_append] at hproper
  exact store.stepThrough_alike halike hproper.1 hproper.2 (Preset.alike_refl hT _)

/-- A deletion that finds nothing and a save that cannot be written, from an unreadable text.  The
save after them gives the same without them, and an earlier instant if it is made earlier then. -/
theorem idle_calls_inert_sample :
    let store := PresetStore.withCapacity 1
    let s : Session PresetHost := { state := .sample }
    let save (seconds : Int) : PresetStep :=
      { call := .save " a " {}, id := "1", time := ⟨seconds, 0⟩ }
    let saved (seconds : Int) : PresetResult := .ok (.saved ⟨"1", "a", {}, ⟨seconds, 0⟩⟩)
    let idle : List PresetStep :=
      [{ call := .delete "x" }, { call := .save "b" {}, writeFailure := some (.io "full") }]
    (store.answer (.delete "x") s).2.state.settings.settings = s.state.settings.settings ∧
      (stepThrough store.attempt (idle ++ [save 2]) s).1 =
        [.ok (.deleted false), .error (.bridge (.io "full")), saved 2] ∧
      (stepThrough store.attempt [save 2] s).1 = [saved 2] ∧
      List.Forall₂ (PresetResult.Alike fun t u => u.seconds ≤ t.seconds) [saved 2]
        (stepThrough store.attempt [save 1] s).1 := by
  intro store s save saved idle
  have hresults : (stepThrough store.attempt (idle ++ [save 2]) s).1 =
      [.ok (.deleted false), .error (.bridge (.io "full")), saved 2] := by decide
  have hthinned : Thinned (fun entry => IsIdle entry.2) (store.trace (idle ++ [save 2]) s)
      [(save 2, saved 2)] := by
    unfold PresetStore.trace
    rw [hresults]
    exact .drop trivial (.drop trivial (.keep _ .nil))
  obtain ⟨hcalls, hruns⟩ := idle_calls_inert store s
  obtain ⟨hsame, hretimed⟩ := hruns _ _ hthinned
  refine ⟨(hcalls (.delete "x")).2.1 (by decide), hresults, hsame, ?_⟩
  refine hretimed _ [save 1] (fun t => Int.le_refl t.seconds) ?_ (by decide)
  exact .cons ⟨rfl, rfl, by decide, rfl, rfl⟩ .nil

end AudioLibrary
