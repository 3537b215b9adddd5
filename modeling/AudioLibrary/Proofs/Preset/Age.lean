import AudioLibrary.Proofs.Preset.Interleaved
import Mathlib.Data.List.Pairwise

/-!
# Presets by age

The list holds presets in the order in which they were written, and a save asks for its instant
before it waits for the lock.  So the list is oldest first when the saves take the lock in the
order in which they have drawn, `oldest_first_of_in_order`; and it need not be otherwise,
`later_save_overtakes`, where a later save comes to the lock first and is dropped first, too.

The order of the list is read off from one fact: after a run, the list is part of what was there and
of what the saves have made, in order (`stored_sublist`).
-/

namespace AudioLibrary

/-- Whether an instant comes before another. -/
def Time.Instant.Before (t u : Time.Instant) : Prop :=
  t.seconds < u.seconds ∨ t.seconds = u.seconds ∧ t.nanos < u.nanos

instance (t u : Time.Instant) : Decidable (t.Before u) := by
  unfold Time.Instant.Before
  infer_instance

/-- Whether each preset is older than those after it. -/
def OldestFirst (presets : List Preset) : Prop :=
  presets.Pairwise fun p q => p.createdAt.Before q.createdAt

instance (presets : List Preset) : Decidable (OldestFirst presets) := by
  unfold OldestFirst
  infer_instance

/-! ## What is in the list -/

/-- The preset that a step makes, if it makes one. -/
def PresetStep.made (step : PresetStep) : List Preset :=
  match step.call with
  | .save name spec => [step.preset name spec]
  | .delete _ | .find _ | .list => []

theorem PresetStep.made_of_change {step : PresetStep} {preset : Preset}
    (h : step.change? = some (.add preset)) : step.made = [preset] := by
  unfold change? at h
  unfold made
  cases hcall : step.call with
  | save name spec =>
      rw [hcall] at h
      exact congrArg (fun p => [p]) (PresetChange.add.inj (Option.some.inj h))
  | _ =>
      rw [hcall] at h
      cases h

/-- A step adds what it makes at the end, and takes others out. -/
theorem PresetStep.listAfter_sublist (store : PresetStore) (step : PresetStep)
    (presets : List Preset) :
    (step.listAfter store presets).Sublist (presets ++ step.made) := by
  unfold listAfter
  split
  · exact List.sublist_append_left _ _
  · unfold replacement made
    cases step.call with
    | save name spec => exact List.drop_sublist _ _
    | delete id =>
        dsimp only
        split
        · exact List.filter_sublist.trans (List.sublist_append_left _ _)
        · exact List.sublist_append_left _ _
    | find id => exact List.sublist_append_left _ _
    | list => exact List.sublist_append_left _ _

/-- **What is stored after a run is part of what was stored and of what the steps have made.** -/
theorem PresetStore.stored_sublist (store : PresetStore) {steps : List PresetStep}
    (htimes : ∀ step ∈ steps, step.time.IsProper) (s : Session PresetHost) :
    (stepThrough store.attempt steps s).2.state.stored.Sublist
      (s.state.stored ++ steps.flatMap PresetStep.made) := by
  rw [store.stored_stepThrough htimes]
  generalize s.state.stored = presets
  clear htimes
  induction steps generalizing presets with
  | nil => exact List.sublist_append_left _ _
  | cons step steps ih =>
      rw [List.foldl_cons, List.flatMap_cons, ← List.append_assoc]
      exact (ih _).trans ((step.listAfter_sublist store presets).append_right _)

/-- Presets that are dropped from a list that is oldest first are older than those that stay. -/
theorem PresetStore.before_of_evicted (store : PresetStore) {presets : List Preset}
    {preset : Preset} (h : OldestFirst (presets ++ [preset])) :
    ∀ old ∈ (presets ++ [preset]).take (presets.length + 1 - store.capacity),
      ∀ kept ∈ store.appended presets preset, old.createdAt.Before kept.createdAt := by
  unfold OldestFirst at h
  rw [← store.take_append_appended presets preset] at h
  exact (List.pairwise_append.1 h).2.2

/-! ## Tasks that take the lock as they have drawn -/

variable {ι : Type} [DecidableEq ι]

namespace TaskBoard

variable {store : PresetStore} {s : Session PresetHost} {tasks : ι → PresetTask}
  {board : TaskBoard ι} {i : ι}

/-- Whether the tasks that make presets take the lock in the order in which they have drawn. -/
def InOrder (board : TaskBoard ι) : Prop :=
  board.order.Pairwise fun i j =>
    i ∈ board.drawn → j ∈ board.drawn → board.drawn.idxOf i < board.drawn.idxOf j

/-- What the tasks make that have taken the lock. -/
def made (host : PresetHost) (tasks : ι → PresetTask) (board : TaskBoard ι) : List Preset :=
  board.order.flatMap fun i => (host.turn tasks board.drawn i).made

/-- What a turn makes has the instant of its draw. -/
theorem createdAt_of_mem_made {host : PresetHost} {drawn : List ι} {p : Preset}
    (hp : p ∈ (host.turn tasks drawn i).made) :
    (∃ name spec, tasks i = .save name spec) ∧
      p.createdAt = host.clock.instant (host.clock.readings + drawn.idxOf i) := by
  unfold PresetStep.made at hp
  rw [PresetHost.call_turn] at hp
  cases htask : tasks i with
  | save name spec =>
      rw [htask] at hp
      obtain rfl := List.mem_singleton.1 hp
      refine ⟨⟨name, spec, rfl⟩, ?_⟩
      rw [PresetHost.turn_of_save htask]
      rfl
  | delete id =>
      rw [htask] at hp
      cases hp

/-- **What tasks make is oldest first, if they take the lock as they have drawn.** -/
theorem oldestFirst_made (horderly : Orderly s.state tasks board) (hinorder : board.InOrder)
    (hincreasing : ∀ m n, m < n → n < board.drawn.length →
      (s.state.clock.instant (s.state.clock.readings + m)).Before
        (s.state.clock.instant (s.state.clock.readings + n))) :
    OldestFirst (board.made s.state tasks) := by
  have hdrawn : ∀ i ∈ board.order, ∀ p ∈ (s.state.turn tasks board.drawn i).made,
      i ∈ board.drawn := by
    intro i hi p hp
    obtain ⟨⟨name, spec, htask⟩, -⟩ := createdAt_of_mem_made hp
    exact ((horderly.fits i).begun_of_mem_order hi).mem_drawn htask
  unfold OldestFirst made
  rw [List.pairwise_flatMap]
  constructor
  · intro i _
    unfold PresetStep.made
    split
    · exact List.pairwise_singleton _ _
    all_goals exact List.Pairwise.nil
  · refine hinorder.imp_of_mem fun {i j} hi hj hlt p hp q hq => ?_
    have hjdrawn := hdrawn j hj q hq
    rw [(createdAt_of_mem_made hp).2, (createdAt_of_mem_made hq).2]
    exact hincreasing _ _ (hlt (hdrawn i hi p hp) hjdrawn) (List.idxOf_lt_length_iff.2 hjdrawn)

/-- What is stored on a board comes of the tasks that have taken the lock and have written. -/
theorem SettlesAs.stored_sublist {settled : List ι} (h : SettlesAs store s tasks board settled)
    (horderly : Orderly s.state tasks board)
    (hclock : s.state.clock.IsProperFor board.drawn.length) :
    board.session.state.stored.Sublist
      (s.state.stored ++ settled.flatMap fun i => (s.state.turn tasks board.drawn i).made) := by
  have hstored : board.session.state.stored =
      (store.inTurn tasks board.drawn settled s).2.state.stored :=
    congrArg Settings.presets h.settings.symm
  have htimes : ∀ step ∈ settled.map (s.state.turn tasks board.drawn), step.time.IsProper := by
    refine List.forall_mem_map.2 fun i hi => ?_
    have hin : i ∈ board.order := h.order ▸ List.mem_append_left _ hi
    exact PresetHost.isProper_time_turn hclock fun _ _ htask =>
      ((horderly.fits i).begun_of_mem_order hin).mem_drawn htask
  rw [hstored, ← List.flatMap_map]
  exact store.stored_sublist htimes s

/-- What is stored on a board comes of the tasks that have taken the lock. -/
theorem stored_sublist_made (horderly : Orderly s.state tasks board)
    (hsettles : Settles store s tasks board)
    (hclock : s.state.clock.IsProperFor board.drawn.length) :
    board.session.state.stored.Sublist (s.state.stored ++ board.made s.state tasks) := by
  obtain ⟨settled, hsettled⟩ := hsettles
  refine (hsettled.stored_sublist horderly hclock).trans ?_
  unfold made
  rw [hsettled.order, List.flatMap_append]
  exact (List.sublist_append_left _ _).append_left _

/-- So does the list that a save is about to write. -/
theorem loaded_sublist_made (horderly : Orderly s.state tasks board)
    (hsettles : Settles store s tasks board)
    (hclock : s.state.clock.IsProperFor board.drawn.length) {preset : Preset}
    {presets : List Preset} (hloaded : board.stage i = .loaded (.add preset) presets) :
    (presets ++ [preset]).Sublist (s.state.stored ++ board.made s.state tasks) := by
  obtain ⟨settled, hsettled⟩ := hsettles
  have hstored := hsettled.stored_sublist horderly hclock
  have hpending := pending_of_none
    ((horderly.fits i).holder_iff.2 (by rw [hloaded]; rfl)) (by rw [hloaded]; rfl)
  have hfits := horderly.fits i
  rw [hloaded] at hfits
  unfold made
  rw [hsettled.order, hpending, List.flatMap_append, ← List.append_assoc]
  cases hfits with
  | loaded _ hchange _ _ =>
      rw [List.flatMap_singleton, PresetStep.made_of_change hchange]
      exact hstored.append_right _

end TaskBoard

/-- **The list is oldest first as long as the saves take the lock in the order in which they have
drawn**, from an empty list and with a clock that only moves on; and what a save drops is then older
than what it keeps.  This holds after every move, as a schedule may end anywhere. -/
theorem oldest_first_of_in_order (store : PresetStore) (tasks : ι → PresetTask)
    {s : Session PresetHost} (hworks : s.state.Works) (hempty : s.state.stored = [])
    {schedule : List ι} {board : TaskBoard ι}
    (hrun : TaskBoard.follow store tasks schedule { session := s } = some board)
    (hclock : s.state.clock.IsProperFor board.drawn.length)
    (hincreasing : ∀ m n, m < n → n < board.drawn.length →
      (s.state.clock.instant (s.state.clock.readings + m)).Before
        (s.state.clock.instant (s.state.clock.readings + n)))
    (hinorder : board.InOrder) :
    OldestFirst board.session.state.stored ∧
      ∀ i preset presets, board.stage i = .loaded (.add preset) presets →
        ∀ old ∈ (presets ++ [preset]).take (presets.length + 1 - store.capacity),
          ∀ kept ∈ store.appended presets preset, old.createdAt.Before kept.createdAt := by
  obtain ⟨horderly, hsettles⟩ := TaskBoard.orderly_and_settles_of_follow hworks hrun
  have hmade := TaskBoard.oldestFirst_made horderly hinorder hincreasing
  constructor
  · have hsublist := TaskBoard.stored_sublist_made horderly hsettles hclock
    rw [hempty] at hsublist
    exact hmade.sublist hsublist
  · intro i preset presets hloaded
    have hsublist := TaskBoard.loaded_sublist_made horderly hsettles hclock hloaded
    rw [hempty] at hsublist
    exact store.before_of_evicted (hmade.sublist hsublist)

/-- Two saves. -/
def PresetTask.saves : Fin 2 → PresetTask
  | 0 => .save "a" {}
  | 1 => .save "b" {}

theorem PresetHost.before_ticking {m n : Nat} (h : m < n) :
    (PresetHost.ticking.clock.instant m).Before (PresetHost.ticking.clock.instant n) := by
  show (Time.Instant.ofMillis (0 + m * 1000)).Before (.ofMillis (0 + n * 1000))
  unfold Time.Instant.ofMillis Time.Instant.Before
  dsimp only
  omega

/-- The first save is done, and the second one has the lock. -/
theorem oldest_first_of_in_order_sample :
    let s : Session PresetHost := { state := .ticking }
    s.state.Works ∧ s.state.stored = [] ∧ ∃ board,
      TaskBoard.follow (PresetStore.withCapacity 2) PresetTask.saves [0, 1, 0, 0, 0, 0, 1]
        { session := s } = some board ∧
      s.state.clock.IsProperFor board.drawn.length ∧
      (∀ m n, m < n → n < board.drawn.length →
        (s.state.clock.instant (s.state.clock.readings + m)).Before
          (s.state.clock.instant (s.state.clock.readings + n))) ∧
      board.InOrder ∧ OldestFirst board.session.state.stored := by
  intro s
  have hworks : s.state.Works := ⟨rfl, rfl⟩
  have hempty : s.state.stored = [] := by decide
  have hends : (TaskBoard.follow (PresetStore.withCapacity 2) PresetTask.saves
      [0, 1, 0, 0, 0, 0, 1] { session := s }).any
        (fun board => decide (board.drawn = [0, 1] ∧ board.order = [0, 1])) = true := by
    decide +kernel
  obtain ⟨board, hrun, hboard⟩ := (Option.any_eq_true _ _).1 hends
  obtain ⟨hdrawn, horder⟩ := of_decide_eq_true hboard
  have hclock : s.state.clock.IsProperFor board.drawn.length := by
    rw [hdrawn]
    show ∀ n < 2, (s.state.clock.instant (0 + n)).IsProper
    decide
  have hincreasing : ∀ m n, m < n → n < board.drawn.length →
      (s.state.clock.instant (s.state.clock.readings + m)).Before
        (s.state.clock.instant (s.state.clock.readings + n)) :=
    fun m n h _ => PresetHost.before_ticking (Nat.add_lt_add_left h _)
  have hinorder : board.InOrder := by
    unfold TaskBoard.InOrder
    rw [hdrawn, horder]
    decide
  obtain ⟨hoverall, -⟩ := oldest_first_of_in_order (PresetStore.withCapacity 2) PresetTask.saves
    hworks hempty hrun hclock hincreasing hinorder
  exact ⟨hworks, hempty, board, hrun, hclock, hincreasing, hinorder, hoverall⟩

/-- **A later save may come to the lock first.**  Then the list is not oldest first, and the next
save drops the later of the two presets. -/
theorem later_save_overtakes :
    let store := PresetStore.withCapacity 2
    let s : Session PresetHost := { state := { PresetHost.ticking with settings := {} } }
    let a : Preset := ⟨"preset-1", "a", {}, ⟨0, 0⟩⟩
    let b : Preset := ⟨"preset-2", "b", {}, ⟨1, 0⟩⟩
    (∀ m n, m < n → (s.state.clock.instant m).Before (s.state.clock.instant n)) ∧
      ∃ board, TaskBoard.follow store PresetTask.saves [0, 1, 1, 1, 1, 1, 0, 0, 0, 0]
          { session := s } = some board ∧
        board.session.state.stored = [b, a] ∧ ¬ OldestFirst board.session.state.stored ∧
        ∀ c, store.appended board.session.state.stored c = [a, c] := by
  intro store s a b
  have hends : (TaskBoard.follow store PresetTask.saves [0, 1, 1, 1, 1, 1, 0, 0, 0, 0]
      { session := s }).any (fun board => decide (board.drawn = [0, 1] ∧ board.order = [1, 0] ∧
        ∀ i, (board.advance store PresetTask.saves i).isNone = true)) = true := by
    decide +kernel
  obtain ⟨board, hrun, hboard⟩ := (Option.any_eq_true _ _).1 hends
  obtain ⟨hdrawn, horder, hend⟩ := of_decide_eq_true hboard
  obtain ⟨horderly, hsettles⟩ := TaskBoard.orderly_and_settles_of_follow ⟨rfl, rfl⟩ hrun
  have hclock : s.state.clock.IsProperFor board.drawn.length := by
    rw [hdrawn]
    show ∀ n < 2, (s.state.clock.instant (0 + n)).IsProper
    decide
  have hgives := TaskBoard.givesInTurn_of_done horderly hsettles hclock
    (horderly.done_of_stuck fun i => Option.isNone_iff_eq_none.1 (hend i))
  have hstored : board.session.state.stored = [b, a] := by
    have hinTurn : board.session.state.stored =
        (store.inTurn PresetTask.saves board.drawn board.order s).2.state.stored :=
      congrArg Settings.presets hgives.settings.symm
    rw [hinTurn, hdrawn, horder]
    unfold PresetStore.inTurn
    rw [store.stored_stepThrough (by decide)]
    decide
  refine ⟨fun m n => PresetHost.before_ticking, board, hrun, hstored, ?_, fun c => ?_⟩
  · rw [hstored]
    decide
  · rw [hstored]
    rfl

end AudioLibrary
