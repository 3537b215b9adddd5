import AudioLibrary.Proofs.Preset.Tasks
import Mathlib.Data.List.Nodup

/-!
# Orderly boards

A task's `turn` is the step that it would be on its own, with the id and the instant of its own
draw.  A board is `Orderly` if its records fit the stages of its tasks: who has drawn and who has
taken the lock; that a task with the lock has read the list as it still is; and that what a task
gives is what its turn gives.  Every move keeps a board orderly, `Orderly.moves`.
-/

namespace AudioLibrary

variable {ι : Type} [DecidableEq ι]

/-- Whether the next readings of a clock are instants that there are. -/
def Time.Clock.IsProperFor (c : Clock) (count : Nat) : Prop :=
  ∀ n < count, (c.instant (c.readings + n)).IsProper

/-! ## Turns -/

/-- Whether a task makes a preset. -/
def PresetTask.makes : PresetTask → Bool
  | .save name _ => Text.trimBlanks name ≠ ""
  | .delete _ => false

/-- A task as a step of its own, if `drawn` are the tasks that ask for an id and an instant, in
order. -/
def PresetHost.turn (host : PresetHost) (tasks : ι → PresetTask) (drawn : List ι) (i : ι) :
    PresetStep :=
  match tasks i with
  | .save name spec =>
      { call := .save name spec
        id := host.ids.id (host.ids.drawn + drawn.idxOf i)
        time := host.clock.instant (host.clock.readings + drawn.idxOf i) }
  | .delete id => { call := .delete id }

/-- What a step does to the list. -/
def PresetStep.change? (step : PresetStep) : Option PresetChange :=
  match step.call with
  | .save name spec => some (.add (step.preset name spec))
  | .delete id => some (.remove id)
  | .find _ | .list => none

section Turn

variable {host : PresetHost} {tasks : ι → PresetTask} {drawn : List ι} {i : ι}

theorem PresetHost.turn_of_save {name : String} {spec : FilterSpec}
    (htask : tasks i = .save name spec) :
    host.turn tasks drawn i =
      { call := .save name spec
        id := host.ids.id (host.ids.drawn + drawn.idxOf i)
        time := host.clock.instant (host.clock.readings + drawn.idxOf i) } := by
  unfold turn
  rw [htask]

theorem PresetHost.turn_of_delete {id : String} (htask : tasks i = .delete id) :
    host.turn tasks drawn i = { call := .delete id } := by
  unfold turn
  rw [htask]

@[simp] theorem PresetHost.call_turn : (host.turn tasks drawn i).call = (tasks i).call := by
  unfold turn
  cases tasks i <;> rfl

/-- The settings work in each turn. -/
theorem PresetHost.failures_turn :
    (host.turn tasks drawn i).readFailure = none ∧
      (host.turn tasks drawn i).writeFailure = none := by
  unfold turn
  cases tasks i <;> exact ⟨rfl, rfl⟩

/-- Each turn is at an instant that there is. -/
theorem PresetHost.isProper_time_turn (hclock : host.clock.IsProperFor drawn.length)
    (h : ∀ name spec, tasks i = .save name spec → i ∈ drawn) :
    (host.turn tasks drawn i).time.IsProper := by
  cases htask : tasks i with
  | save name spec =>
      rw [turn_of_save htask]
      exact hclock _ (List.idxOf_lt_length_iff.2 (h name spec htask))
  | delete id =>
      rw [turn_of_delete htask]
      show (default : Time.Instant).IsProper
      decide

/-- Later draws do not change a turn. -/
theorem PresetHost.turn_concat {j : ι}
    (h : ∀ name spec, tasks i = .save name spec → i ∈ drawn) :
    host.turn tasks (drawn ++ [j]) i = host.turn tasks drawn i := by
  cases htask : tasks i with
  | save name spec =>
      rw [turn_of_save htask, turn_of_save htask, List.idxOf_append_of_mem (h name spec htask)]
  | delete id => rw [turn_of_delete htask, turn_of_delete htask]

end Turn

/-- What a task writes is the outcome of its step. -/
theorem PresetStore.run_write (store : PresetStore) {step : PresetStep} {change : PresetChange}
    {s : Session PresetHost} (hworks : s.state.Works) (hchange : step.change? = some change)
    (hblank : step.call.isBlank = false)
    (hfailures : step.readFailure = none ∧ step.writeFailure = none) :
    ∃ s', (store.write change s.state.stored).run s = (.ok (step.answer s.state.stored), s') ∧
      step.outcome store s.state.settings.settings =
        (.ok (step.answer s.state.stored), s'.state.settings.settings) ∧
      s'.state.Works ∧ s'.state.ids = s.state.ids ∧ s'.state.clock = s.state.clock := by
  have hstored : s.state.settings.settings.presets = s.state.stored := rfl
  rw [PresetStep.outcome_of_works hblank hfailures, hstored]
  unfold PresetStep.change? at hchange
  unfold PresetStep.answer PresetStep.replacement
  cases hcall : step.call with
  | save name spec =>
      rw [hcall] at hchange
      obtain rfl := Option.some.inj hchange
      obtain ⟨s', hadd, hstate⟩ := run_addTo store (step.preset name spec) s.state.stored hworks.2
      refine ⟨s', Action.run_map_ok _ hadd, ?_⟩
      rw [hstate]
      exact ⟨rfl, hworks, rfl, rfl⟩
  | delete id =>
      rw [hcall] at hchange
      obtain rfl := Option.some.inj hchange
      dsimp only
      cases hany : s.state.stored.any (·.id = id) with
      | false =>
          refine ⟨s, Action.run_map_ok _ (run_removeFrom_of_none hany), rfl, hworks, rfl, rfl⟩
      | true =>
          obtain ⟨s', hremove, hstate⟩ := run_removeFrom hany hworks.2
          refine ⟨s', Action.run_map_ok _ hremove, ?_⟩
          rw [hstate]
          exact ⟨rfl, hworks, rfl, rfl⟩
  | _ =>
      rw [hcall] at hchange
      cases hchange

/-! ## Stages -/

namespace TaskStage

/-- Whether a task has the lock. -/
def holds : TaskStage → Bool
  | holding _ | loaded .. | leaving _ => true
  | ready | waiting _ | done _ => false

/-- What a task gives. -/
def result? : TaskStage → Option PresetResult
  | leaving result | done result => some result
  | ready | waiting _ | holding _ | loaded .. => none

/-- How many moves a stage is from the first, at most. -/
def rank : TaskStage → Nat
  | ready => 0
  | waiting _ => 1
  | holding _ => 2
  | loaded .. => 3
  | leaving _ => 4
  | done _ => 5

theorem rank_le (stage : TaskStage) : stage.rank ≤ 5 := by
  unfold rank
  split <;> decide

end TaskStage

namespace TaskBoard

/-! ## Orderly boards -/

/-- Whether a task is let through, and counts as drawn if it makes a preset. -/
structure Begun (tasks : ι → PresetTask) (board : TaskBoard ι) (i : ι) : Prop where
  blank : (tasks i).call.isBlank = false
  drawn : i ∈ board.drawn ↔ (tasks i).makes = true

/-- Whether a stage fits what a board has recorded of a task. -/
inductive Fits (host : PresetHost) (tasks : ι → PresetTask) (board : TaskBoard ι) (i : ι) :
    TaskStage → Prop
  | ready : i ∉ board.drawn → i ∉ board.order → board.holder ≠ some i →
      Fits host tasks board i .ready
  | refused : (tasks i).call.isBlank = true → i ∉ board.drawn → i ∉ board.order →
      board.holder ≠ some i → Fits host tasks board i
        (.done (.error (.invalidInput "name" "preset name must not be blank")))
  | waiting {change : PresetChange} : Begun tasks board i →
      (host.turn tasks board.drawn i).change? = some change →
      i ∉ board.order → board.holder ≠ some i → Fits host tasks board i (.waiting change)
  | holding {change : PresetChange} : Begun tasks board i →
      (host.turn tasks board.drawn i).change? = some change →
      i ∈ board.order → board.holder = some i → Fits host tasks board i (.holding change)
  | loaded {change : PresetChange} : Begun tasks board i →
      (host.turn tasks board.drawn i).change? = some change →
      i ∈ board.order → board.holder = some i →
      Fits host tasks board i (.loaded change board.session.state.stored)
  | leaving (presets : List Preset) : Begun tasks board i →
      i ∈ board.order → board.holder = some i → Fits host tasks board i
        (.leaving (.ok ((host.turn tasks board.drawn i).answer presets)))
  | done (presets : List Preset) : Begun tasks board i →
      i ∈ board.order → board.holder ≠ some i → Fits host tasks board i
        (.done (.ok ((host.turn tasks board.drawn i).answer presets)))

/-- Whether the records of a board fit its tasks and its session. -/
structure Orderly (host : PresetHost) (tasks : ι → PresetTask) (board : TaskBoard ι) : Prop where
  works : board.session.state.Works
  ids : board.session.state.ids =
    { host.ids with drawn := host.ids.drawn + board.drawn.length }
  clock : board.session.state.clock =
    { host.clock with readings := host.clock.readings + board.drawn.length }
  nodup_drawn : board.drawn.Nodup
  nodup_order : board.order.Nodup
  fits : ∀ i, board.Fits host tasks i (board.stage i)

variable {store : PresetStore} {host : PresetHost} {tasks : ι → PresetTask}
  {board board' : TaskBoard ι} {i j : ι} {stage : TaskStage}

@[simp] theorem stage_move_self : (board.move i stage).stage i = stage := by
  simp [move]

theorem stage_move_of_ne (h : j ≠ i) : (board.move i stage).stage j = board.stage j := by
  simp [move, h]

theorem Fits.holder_iff (h : board.Fits host tasks i stage) :
    board.holder = some i ↔ stage.holds = true := by
  cases h with
  | ready _ _ hholder => simp [hholder, TaskStage.holds]
  | refused _ _ _ hholder => simp [hholder, TaskStage.holds]
  | waiting _ _ _ hholder => simp [hholder, TaskStage.holds]
  | holding _ _ _ hholder => simp [hholder, TaskStage.holds]
  | loaded _ _ _ hholder => simp [hholder, TaskStage.holds]
  | leaving _ _ _ hholder => simp [hholder, TaskStage.holds]
  | done _ _ _ hholder => simp [hholder, TaskStage.holds]

/-- Only one task has the lock. -/
theorem Orderly.eq_of_holds (h : Orderly host tasks board) (hi : board.holder = some i)
    (hj : (board.stage j).holds = true) : j = i := by
  rw [(h.fits j).holder_iff.2 hj] at hi
  exact Option.some.inj hi

omit [DecidableEq ι] in
/-- A save that has begun has drawn. -/
theorem Begun.mem_drawn (h : Begun tasks board i) {name : String} {spec : FilterSpec}
    (htask : tasks i = .save name spec) : i ∈ board.drawn := by
  have hblank := h.blank
  refine h.drawn.2 ?_
  rw [htask] at hblank ⊢
  exact decide_eq_true (of_decide_eq_false hblank)

/-- The turn of a task that has begun does not change when others draw. -/
theorem Begun.turn_concat (h : Begun tasks board i) :
    host.turn tasks (board.drawn ++ [j]) i = host.turn tasks board.drawn i :=
  PresetHost.turn_concat fun _ _ htask => h.mem_drawn htask

/-- A move of another task does nothing to a task, if it leaves its records as they are and the
list that it has read. -/
theorem Fits.of_bystander (h : board.Fits host tasks j stage)
    (hdrawn : j ∈ board'.drawn ↔ j ∈ board.drawn) (horder : j ∈ board'.order ↔ j ∈ board.order)
    (hholder : board'.holder = some j ↔ board.holder = some j)
    (hturn : Begun tasks board j → host.turn tasks board'.drawn j = host.turn tasks board.drawn j)
    (hstored : stage.holds = true → board'.session.state.stored = board.session.state.stored) :
    board'.Fits host tasks j stage := by
  have hbegun (hj : Begun tasks board j) : Begun tasks board' j :=
    ⟨hj.blank, hdrawn.trans hj.drawn⟩
  cases h with
  | ready hnew hout hfree =>
      exact .ready (mt hdrawn.1 hnew) (mt horder.1 hout) (mt hholder.1 hfree)
  | refused hblank hnew hout hfree =>
      exact .refused hblank (mt hdrawn.1 hnew) (mt horder.1 hout) (mt hholder.1 hfree)
  | waiting hj hchange hout hfree =>
      exact .waiting (hbegun hj) (hturn hj ▸ hchange) (mt horder.1 hout) (mt hholder.1 hfree)
  | holding hj hchange hin hheld =>
      exact .holding (hbegun hj) (hturn hj ▸ hchange) (horder.2 hin) (hholder.2 hheld)
  | loaded hj hchange hin hheld =>
      rw [← hstored rfl]
      exact .loaded (hbegun hj) (hturn hj ▸ hchange) (horder.2 hin) (hholder.2 hheld)
  | leaving presets hj hin hheld =>
      rw [← hturn hj]
      exact .leaving presets (hbegun hj) (horder.2 hin) (hholder.2 hheld)
  | done presets hj hin hfree =>
      rw [← hturn hj]
      exact .done presets (hbegun hj) (horder.2 hin) (mt hholder.1 hfree)

/-- A move changes the stage of one task. -/
theorem fits_of_move (hstage : board'.stage = (board.move i stage).stage)
    (hmover : board'.Fits host tasks i stage)
    (hothers : ∀ j, j ≠ i → board'.Fits host tasks j (board.stage j)) (j : ι) :
    board'.Fits host tasks j (board'.stage j) := by
  rw [hstage]
  by_cases hj : j = i
  · rw [hj, stage_move_self]
    exact hmover
  · rw [stage_move_of_ne hj]
    exact hothers j hj

theorem Orderly.refuse (h : Orderly host tasks board) (hready : board.stage i = .ready)
    (hblank : (tasks i).call.isBlank = true) :
    Orderly host tasks (board.move i
      (.done (.error (.invalidInput "name" "preset name must not be blank")))) := by
  refine ⟨h.works, h.ids, h.clock, h.nodup_drawn, h.nodup_order, fits_of_move rfl ?_ ?_⟩
  · have hfits := h.fits i
    rw [hready] at hfits
    cases hfits with
    | ready hnew hout hfree => exact .refused hblank hnew hout hfree
  · intro j _
    exact (h.fits j).of_bystander Iff.rfl Iff.rfl Iff.rfl (fun _ => rfl) (fun _ => rfl)

theorem Orderly.make (h : Orderly host tasks board) {name : String} {spec : FilterSpec}
    (hready : board.stage i = .ready) (htask : tasks i = .save name spec)
    (hname : Text.trimBlanks name ≠ "") :
    Orderly host tasks
      { board.move i (.waiting
          (.add (PresetStore.made board.session.state (Text.trimBlanks name) spec))) with
        session := { board.session with state := PresetStore.afterMaking board.session.state }
        drawn := board.drawn ++ [i] } := by
  have hfits := h.fits i
  rw [hready] at hfits
  obtain ⟨hnew, hout, hfree⟩ : i ∉ board.drawn ∧ i ∉ board.order ∧ board.holder ≠ some i := by
    cases hfits with
    | ready hnew hout hfree => exact ⟨hnew, hout, hfree⟩
  refine ⟨h.works, ?_, ?_, ?_, h.nodup_order, fits_of_move rfl ?_ ?_⟩
  · show board.session.state.ids.draw.2 = _
    rw [h.ids, List.length_append]
    rfl
  · show board.session.state.clock.read.2 = _
    rw [h.clock, List.length_append]
    rfl
  · show (board.drawn ++ [i]).Nodup
    rw [← List.concat_eq_append]
    exact h.nodup_drawn.concat hnew
  · -- the new draw is the last one, so its place counts the draws before it
    have hidx : (board.drawn ++ [i]).idxOf i = board.drawn.length := by
      rw [List.idxOf_append_of_notMem hnew, List.idxOf_cons_self, Nat.add_zero]
    refine .waiting ⟨?_, ?_⟩ ?_ hout hfree
    · rw [htask]
      exact decide_eq_false hname
    · rw [htask]
      simp [PresetTask.makes, hname]
    · rw [PresetHost.turn_of_save htask, hidx]
      unfold PresetStore.made
      rw [h.ids, h.clock]
      rfl
  · intro j hj
    refine (h.fits j).of_bystander ?_ Iff.rfl Iff.rfl Begun.turn_concat (fun _ => rfl)
    simp [hj]

theorem Orderly.skip (h : Orderly host tasks board) {id : String}
    (hready : board.stage i = .ready) (htask : tasks i = .delete id) :
    Orderly host tasks (board.move i (.waiting (.remove id))) := by
  refine ⟨h.works, h.ids, h.clock, h.nodup_drawn, h.nodup_order, fits_of_move rfl ?_ ?_⟩
  · have hfits := h.fits i
    rw [hready] at hfits
    cases hfits with
    | ready hnew hout hfree =>
        refine .waiting ⟨?_, ?_⟩ ?_ hout hfree
        · rw [htask]
          rfl
        · rw [htask]
          exact iff_of_false hnew Bool.false_ne_true
        · rw [PresetHost.turn_of_delete htask]
          rfl
  · intro j _
    exact (h.fits j).of_bystander Iff.rfl Iff.rfl Iff.rfl (fun _ => rfl) (fun _ => rfl)

theorem Orderly.enter (h : Orderly host tasks board) {change : PresetChange}
    (hwaiting : board.stage i = .waiting change) (hfree : board.holder = none) :
    Orderly host tasks
      { board.move i (.holding change) with holder := some i, order := board.order ++ [i] } := by
  have hfits := h.fits i
  rw [hwaiting] at hfits
  cases hfits with
  | waiting hbegun hchange hout _ =>
      refine ⟨h.works, h.ids, h.clock, h.nodup_drawn, ?_, fits_of_move rfl ?_ ?_⟩
      · show (board.order ++ [i]).Nodup
        rw [← List.concat_eq_append]
        exact h.nodup_order.concat hout
      · exact .holding ⟨hbegun.blank, hbegun.drawn⟩ hchange (List.mem_append_right _ (by simp)) rfl
      · intro j hj
        refine (h.fits j).of_bystander Iff.rfl ?_ ?_ (fun _ => rfl) (fun _ => rfl)
        · simp [hj]
        · rw [hfree]
          exact iff_of_false (fun heq => hj (Option.some.inj heq).symm) nofun

theorem Orderly.load (h : Orderly host tasks board) {change : PresetChange}
    {session : Session PresetHost} (hholding : board.stage i = .holding change)
    (hsame : session.state = board.session.state) :
    Orderly host tasks
      { board.move i (.loaded change board.session.state.stored) with session } := by
  refine ⟨?_, ?_, ?_, h.nodup_drawn, h.nodup_order, fits_of_move rfl ?_ ?_⟩
  · exact hsame ▸ h.works
  · exact hsame ▸ h.ids
  · exact hsame ▸ h.clock
  · have hfits := h.fits i
    rw [hholding] at hfits
    rw [← hsame]
    cases hfits with
    | holding hbegun hchange hin hheld =>
        exact .loaded ⟨hbegun.blank, hbegun.drawn⟩ hchange hin hheld
  · intro j _
    exact (h.fits j).of_bystander Iff.rfl Iff.rfl Iff.rfl (fun _ => rfl)
      (fun _ => congrArg PresetHost.stored hsame)

theorem Orderly.leave (h : Orderly host tasks board) {result : PresetResult}
    (hleaving : board.stage i = .leaving result) :
    Orderly host tasks { board.move i (.done result) with holder := none } := by
  refine ⟨h.works, h.ids, h.clock, h.nodup_drawn, h.nodup_order, fits_of_move rfl ?_ ?_⟩
  · have hfits := h.fits i
    rw [hleaving] at hfits
    cases hfits with
    | leaving presets hbegun hin _ =>
        exact .done presets ⟨hbegun.blank, hbegun.drawn⟩ hin nofun
  · intro j hj
    have hheld : board.holder = some i := (h.fits i).holder_iff.2 (by rw [hleaving]; rfl)
    refine (h.fits j).of_bystander Iff.rfl Iff.rfl ?_ (fun _ => rfl) (fun _ => rfl)
    rw [hheld]
    exact iff_of_false nofun fun heq => hj (Option.some.inj heq).symm

/-- What the write of a task does, on an orderly board. -/
theorem Orderly.run_write (h : Orderly host tasks board) {change : PresetChange}
    {presets : List Preset} {result : PresetResult} {session : Session PresetHost}
    (hloaded : board.stage i = .loaded change presets)
    (hrun : (store.write change presets).run board.session = (result, session)) :
    presets = board.session.state.stored ∧
      result = .ok ((host.turn tasks board.drawn i).answer presets) ∧
      (host.turn tasks board.drawn i).outcome store board.session.state.settings.settings =
        (result, session.state.settings.settings) ∧
      session.state.Works ∧ session.state.ids = board.session.state.ids ∧
      session.state.clock = board.session.state.clock := by
  have hfits := h.fits i
  rw [hloaded] at hfits
  cases hfits with
  | loaded hbegun hchange _ _ =>
      obtain ⟨s', hwrite, houtcome, hworks, hids, hclock⟩ := store.run_write h.works hchange
        (by rw [PresetHost.call_turn]; exact hbegun.blank) PresetHost.failures_turn
      rw [hwrite] at hrun
      obtain ⟨rfl, rfl⟩ := Prod.mk.inj hrun
      exact ⟨rfl, rfl, houtcome, hworks, hids, hclock⟩

theorem Orderly.write (h : Orderly host tasks board) {change : PresetChange}
    {presets : List Preset} {result : PresetResult} {session : Session PresetHost}
    (hloaded : board.stage i = .loaded change presets)
    (hrun : (store.write change presets).run board.session = (result, session)) :
    Orderly host tasks { board.move i (.leaving result) with session } := by
  obtain ⟨-, hresult, -, hworks, hids, hclock⟩ := h.run_write hloaded hrun
  have hheld : board.holder = some i := (h.fits i).holder_iff.2 (by rw [hloaded]; rfl)
  refine ⟨hworks, hids.trans h.ids, hclock.trans h.clock, h.nodup_drawn, h.nodup_order,
    fits_of_move rfl ?_ ?_⟩
  · have hfits := h.fits i
    rw [hloaded] at hfits
    rw [hresult]
    cases hfits with
    | loaded hbegun _ hin _ => exact .leaving _ ⟨hbegun.blank, hbegun.drawn⟩ hin hheld
  · intro j hj
    exact (h.fits j).of_bystander Iff.rfl Iff.rfl Iff.rfl (fun _ => rfl)
      (fun hholds => absurd (h.eq_of_holds hheld hholds) hj)

/-- **Every move keeps a board orderly.** -/
theorem Orderly.moves (h : Orderly host tasks board) (hmove : Moves store tasks i board board') :
    Orderly host tasks board' := by
  cases hmove with
  | refuse hready hblank => exact h.refuse hready hblank
  | make name spec hready htask hname => exact h.make hready htask hname
  | skip id hready htask => exact h.skip hready htask
  | enter change hwaiting hfree => exact h.enter hwaiting hfree
  | load change session hholding hsame => exact h.load hholding hsame
  | write change presets result session hloaded hrun => exact h.write hloaded hrun
  | leave result hleaving => exact h.leave hleaving

end TaskBoard

end AudioLibrary
