import AudioLibrary.Proofs.Preset.Evicted
import AudioLibrary.Proofs.Preset.Orderly

/-!
# No lost update

Tasks that save and delete presets at the same time give what they give one after another, in the
order in which they take the lock.

`Settles` says of a board that the tasks that have written come to the same as their turns in a
row, and that the only other task which has taken the lock is about to write.  Every move keeps
this on an orderly board, `Settles.moves`; the write is the move that adds a turn to the row.
-/

namespace AudioLibrary

variable {ι : Type} [DecidableEq ι]

/-- Tasks one after another, each with its own draw. -/
def PresetStore.inTurn (store : PresetStore) (tasks : ι → PresetTask) (drawn order : List ι)
    (s : Session PresetHost) : List PresetResult × Session PresetHost :=
  stepThrough store.attempt (order.map (s.state.turn tasks drawn)) s

theorem PresetStore.inTurn_congr (store : PresetStore) {tasks : ι → PresetTask}
    {drawn drawn' order : List ι} {s : Session PresetHost}
    (h : ∀ i ∈ order, s.state.turn tasks drawn' i = s.state.turn tasks drawn i) :
    store.inTurn tasks drawn' order s = store.inTurn tasks drawn order s := by
  unfold inTurn
  rw [List.map_congr_left h]

theorem PresetStore.inTurn_append (store : PresetStore) (tasks : ι → PresetTask)
    (drawn before after : List ι) (s : Session PresetHost) :
    let first := store.inTurn tasks drawn before s
    let rest := stepThrough store.attempt (after.map (s.state.turn tasks drawn)) first.2
    store.inTurn tasks drawn (before ++ after) s = (first.1 ++ rest.1, rest.2) := by
  unfold inTurn
  rw [List.map_append, stepThrough_append]

namespace TaskBoard

/-- The task that has the lock, if it has not written. -/
def pending (board : TaskBoard ι) : List ι :=
  match board.holder with
  | some i => if (board.stage i).result?.isSome then [] else [i]
  | none => []

/-- Whether tasks come to what a board shows when they have their turns in a row. -/
structure SettlesAs (store : PresetStore) (s : Session PresetHost) (tasks : ι → PresetTask)
    (board : TaskBoard ι) (settled : List ι) : Prop where
  order : board.order = settled ++ board.pending
  results : (store.inTurn tasks board.drawn settled s).1.map some =
    settled.map fun i => (board.stage i).result?
  settings : (store.inTurn tasks board.drawn settled s).2.state.settings.settings =
    board.session.state.settings.settings

/-- Whether the tasks that have written come to what a board shows. -/
def Settles (store : PresetStore) (s : Session PresetHost) (tasks : ι → PresetTask)
    (board : TaskBoard ι) : Prop :=
  ∃ settled, SettlesAs store s tasks board settled

variable {store : PresetStore} {s : Session PresetHost} {tasks : ι → PresetTask}
  {board board' : TaskBoard ι} {i j : ι}

omit [DecidableEq ι] in
theorem pending_of_free (h : board.holder = none) : board.pending = [] := by
  unfold pending
  rw [h]

omit [DecidableEq ι] in
theorem pending_of_result (h : board.holder = some i)
    (hresult : (board.stage i).result?.isSome = true) : board.pending = [] := by
  unfold pending
  rw [h]
  exact if_pos hresult

omit [DecidableEq ι] in
theorem pending_of_none (h : board.holder = some i) (hresult : (board.stage i).result? = none) :
    board.pending = [i] := by
  unfold pending
  rw [h]
  dsimp only
  rw [hresult]
  rfl

/-- What has settled stays so, if no task of it gives anything else. -/
theorem SettlesAs.of_same {settled : List ι} (h : SettlesAs store s tasks board settled)
    (horder : board'.order = settled ++ board'.pending)
    (hturn : ∀ j ∈ settled, s.state.turn tasks board'.drawn j = s.state.turn tasks board.drawn j)
    (hresult : ∀ j ∈ settled, (board'.stage j).result? = (board.stage j).result?)
    (hsettings : board'.session.state.settings.settings =
      board.session.state.settings.settings) :
    Settles store s tasks board' := by
  refine ⟨settled, horder, ?_, ?_⟩
  · rw [store.inTurn_congr hturn, h.results, List.map_congr_left hresult]
  · rw [store.inTurn_congr hturn, h.settings, hsettings]

/-- The first move of a task is nothing to the tasks that have taken the lock. -/
theorem Settles.of_begin (h : Settles store s tasks board) {stage : TaskStage}
    (hstage : board'.stage = (board.move i stage).stage)
    (hout : i ∉ board.order) (hfree : board.holder ≠ some i)
    (horder : board'.order = board.order) (hholder : board'.holder = board.holder)
    (hturn : ∀ j ∈ board.order,
      s.state.turn tasks board'.drawn j = s.state.turn tasks board.drawn j)
    (hsettings : board'.session.state.settings.settings =
      board.session.state.settings.settings) :
    Settles store s tasks board' := by
  obtain ⟨settled, hsettled⟩ := h
  have hmem (j : ι) (hj : j ∈ settled) : j ∈ board.order := by
    rw [hsettled.order]
    exact List.mem_append_left _ hj
  have hpending : board'.pending = board.pending := by
    unfold pending
    rw [hholder, hstage]
    split
    · next j hj =>
        have hne : j ≠ i := fun heq => hfree (heq ▸ hj)
        rw [stage_move_of_ne hne]
    · rfl
  refine hsettled.of_same ?_ (fun j hj => hturn j (hmem j hj)) ?_ hsettings
  · rw [horder, hpending]
    exact hsettled.order
  · intro j hj
    have hne : j ≠ i := fun heq => hout (heq ▸ hmem j hj)
    rw [hstage, stage_move_of_ne hne]

/-- A task that is ready stands in no record. -/
theorem Orderly.not_mem_of_ready {host : PresetHost} (h : Orderly host tasks board)
    (hready : board.stage i = .ready) : i ∉ board.order ∧ board.holder ≠ some i := by
  have hfits := h.fits i
  rw [hready] at hfits
  cases hfits with
  | ready _ hout hfree => exact ⟨hout, hfree⟩

/-- Who has taken the lock has begun. -/
theorem Fits.begun_of_mem_order {host : PresetHost} {stage : TaskStage}
    (h : board.Fits host tasks i stage) (hin : i ∈ board.order) : Begun tasks board i := by
  cases h with
  | ready _ hout _ => exact absurd hin hout
  | refused _ _ hout _ => exact absurd hin hout
  | waiting hbegun _ _ _ => exact hbegun
  | holding hbegun _ _ _ => exact hbegun
  | loaded hbegun _ _ _ => exact hbegun
  | leaving _ hbegun _ _ => exact hbegun
  | done _ hbegun _ _ => exact hbegun

theorem Settles.enter (h : Settles store s tasks board) (horderly : Orderly s.state tasks board)
    {change : PresetChange} (hwaiting : board.stage i = .waiting change)
    (hfree : board.holder = none) :
    Settles store s tasks
      { board.move i (.holding change) with holder := some i, order := board.order ++ [i] } := by
  obtain ⟨settled, hsettled⟩ := h
  have hall : board.order = settled := by
    rw [hsettled.order, pending_of_free hfree, List.append_nil]
  have hout : i ∉ board.order := by
    have hfits := horderly.fits i
    rw [hwaiting] at hfits
    cases hfits with
    | waiting _ _ hout _ => exact hout
  refine hsettled.of_same ?_ (fun _ _ => rfl) ?_ rfl
  · rw [pending_of_none rfl (congrArg TaskStage.result? stage_move_self), ← hall]
  · intro j hj
    have hne : j ≠ i := fun heq => hout (heq ▸ hall ▸ hj)
    exact congrArg TaskStage.result? (stage_move_of_ne hne)

/-- Reading the list is nothing to the tasks that have written. -/
theorem Settles.load (h : Settles store s tasks board) {change : PresetChange}
    {session : Session PresetHost} (hholding : board.stage i = .holding change)
    (hsame : session.state = board.session.state) :
    Settles store s tasks
      { board.move i (.loaded change board.session.state.stored) with session } := by
  obtain ⟨settled, hsettled⟩ := h
  have hresult (j : ι) : ((board.move i (.loaded change board.session.state.stored)).stage
      j).result? = (board.stage j).result? := by
    by_cases hj : j = i
    · rw [hj, stage_move_self, hholding]
      rfl
    · rw [stage_move_of_ne hj]
  refine hsettled.of_same ?_ (fun _ _ => rfl) (fun j _ => hresult j) ?_
  · refine hsettled.order.trans (congrArg (settled ++ ·) ?_)
    unfold pending
    dsimp only [move] at hresult ⊢
    simp only [hresult]
  · exact congrArg (fun host => host.settings.settings) hsame

/-- **The write of a task adds its turn to the row.** -/
theorem Settles.write (h : Settles store s tasks board) (horderly : Orderly s.state tasks board)
    {change : PresetChange} {presets : List Preset} {result : PresetResult}
    {session : Session PresetHost} (hloaded : board.stage i = .loaded change presets)
    (hrun : (store.write change presets).run board.session = (result, session)) :
    Settles store s tasks { board.move i (.leaving result) with session } := by
  obtain ⟨settled, hsettled⟩ := h
  obtain ⟨-, -, houtcome, -⟩ := horderly.run_write hloaded hrun
  have hheld : board.holder = some i :=
    (horderly.fits i).holder_iff.2 (by rw [hloaded]; rfl)
  have horder : board.order = settled ++ [i] := by
    rw [hsettled.order, pending_of_none hheld (by rw [hloaded]; rfl)]
  have hout : i ∉ settled := by
    have hnodup := horderly.nodup_order
    rw [horder, ← List.concat_eq_append] at hnodup
    exact (List.nodup_concat settled i).1 hnodup |>.1
  -- the turn finds the settings that the task has found
  obtain ⟨hresult, hsettings⟩ := store.attempt_eq_outcome (s.state.turn tasks board.drawn i)
    (store.inTurn tasks board.drawn settled s).2
  rw [hsettled.settings, houtcome] at hresult hsettings
  have hstage : (board.move i (.leaving result)).stage i = .leaving result := stage_move_self
  refine ⟨settled ++ [i], ?_, ?_, ?_⟩
  · have hpending : TaskBoard.pending { board.move i (.leaving result) with session } = [] :=
      pending_of_result hheld (congrArg (fun stage => stage.result?.isSome) hstage)
    rw [hpending, List.append_nil]
    exact horder
  · show (store.inTurn tasks board.drawn (settled ++ [i]) s).1.map some = _
    rw [store.inTurn_append, List.map_append, List.map_append, hsettled.results]
    congr 1
    · refine List.map_congr_left fun j hj => ?_
      have hne : j ≠ i := fun heq => hout (heq ▸ hj)
      exact (congrArg TaskStage.result? (stage_move_of_ne hne)).symm
    · show [some (store.attempt _ _).1] = [((board.move i (.leaving result)).stage i).result?]
      rw [hresult, hstage]
      rfl
  · show (store.inTurn tasks board.drawn (settled ++ [i]) s).2.state.settings.settings = _
    rw [store.inTurn_append]
    exact hsettings

theorem Settles.leave (h : Settles store s tasks board) (horderly : Orderly s.state tasks board)
    {result : PresetResult} (hleaving : board.stage i = .leaving result) :
    Settles store s tasks { board.move i (.done result) with holder := none } := by
  obtain ⟨settled, hsettled⟩ := h
  have hheld : board.holder = some i :=
    (horderly.fits i).holder_iff.2 (by rw [hleaving]; rfl)
  have hstage : (board.move i (.done result)).stage i = .done result := stage_move_self
  have horder := hsettled.order
  rw [pending_of_result hheld (by rw [hleaving]; rfl)] at horder
  refine hsettled.of_same ?_ (fun _ _ => rfl) ?_ rfl
  · rw [pending_of_free rfl]
    exact horder
  · intro j _
    by_cases hj : j = i
    · rw [hj, hleaving]
      exact Eq.trans (congrArg TaskStage.result? hstage) rfl
    · exact congrArg TaskStage.result? (stage_move_of_ne hj)

/-- **Every move keeps what has settled.** -/
theorem Settles.moves (h : Settles store s tasks board) (horderly : Orderly s.state tasks board)
    (hmove : Moves store tasks i board board') : Settles store s tasks board' := by
  cases hmove with
  | refuse hready hblank =>
      obtain ⟨hout, hfree⟩ := horderly.not_mem_of_ready hready
      exact h.of_begin rfl hout hfree rfl rfl (fun _ _ => rfl) rfl
  | make name spec hready htask hname =>
      obtain ⟨hout, hfree⟩ := horderly.not_mem_of_ready hready
      exact h.of_begin rfl hout hfree rfl rfl
        (fun j hj => ((horderly.fits j).begun_of_mem_order hj).turn_concat) rfl
  | skip id hready htask =>
      obtain ⟨hout, hfree⟩ := horderly.not_mem_of_ready hready
      exact h.of_begin rfl hout hfree rfl rfl (fun _ _ => rfl) rfl
  | enter change hwaiting hfree => exact h.enter horderly hwaiting hfree
  | load change session hholding hsame => exact h.load hholding hsame
  | write change presets result session hloaded hrun => exact h.write horderly hloaded hrun
  | leave result hleaving => exact h.leave horderly hleaving

/-! ## Runs -/

/-- Before any move, no task has drawn or taken the lock. -/
theorem orderly_start (tasks : ι → PresetTask) (hworks : s.state.Works) :
    Orderly s.state tasks { session := s } :=
  ⟨hworks, rfl, rfl, List.nodup_nil, List.nodup_nil,
    fun _ => .ready List.not_mem_nil List.not_mem_nil nofun⟩

theorem settles_start (store : PresetStore) (s : Session PresetHost) (tasks : ι → PresetTask) :
    Settles store s tasks { session := s } :=
  ⟨[], rfl, rfl, rfl⟩

/-- **Every schedule leads to an orderly board, on which the tasks that have written come to the
same as their turns in a row.** -/
theorem orderly_and_settles_of_follow (hworks : s.state.Works) {schedule : List ι}
    (hrun : follow store tasks schedule { session := s } = some board) :
    Orderly s.state tasks board ∧ Settles store s tasks board := by
  refine follow_keeps
    (P := fun board => Orderly s.state tasks board ∧ Settles store s tasks board) ?_ schedule
    ⟨orderly_start tasks hworks, settles_start store s tasks⟩ hrun
  rintro i board board' ⟨horderly, hsettles⟩ hadvance
  have hmove := moves_of_advance horderly.works hadvance
  exact ⟨horderly.moves hmove, hsettles.moves horderly hmove⟩

/-! ## Ends -/

/-- A task cannot move only if it is done, or if another task has the lock that it waits for. -/
theorem done_or_waiting_of_stuck (h : board.advance store tasks i = none) :
    (∃ result, board.stage i = .done result) ∨
      (board.stage i).holds = false ∧ board.holder.isSome = true := by
  unfold advance at h
  cases hstage : board.stage i with
  | ready =>
      rw [hstage] at h
      dsimp only at h
      split at h <;> cases h
  | waiting change =>
      rw [hstage] at h
      dsimp only at h
      split at h
      · next hheld => exact Or.inr ⟨rfl, hheld⟩
      · cases h
  | holding change =>
      rw [hstage] at h
      dsimp only at h
      split at h <;> cases h
  | loaded change presets =>
      rw [hstage] at h
      cases h
  | leaving result =>
      rw [hstage] at h
      cases h
  | done result => exact Or.inl ⟨result, rfl⟩

/-- **When no task can move, all are done.** -/
theorem Orderly.done_of_stuck {host : PresetHost} (h : Orderly host tasks board)
    (hend : ∀ i, board.advance store tasks i = none) (i : ι) :
    ∃ result, board.stage i = .done result := by
  have hfree : board.holder = none := by
    cases hheld : board.holder with
    | none => rfl
    | some j =>
        have hholds := (h.fits j).holder_iff.1 hheld
        rcases done_or_waiting_of_stuck (hend j) with ⟨result, hdone⟩ | ⟨hwaiting, -⟩
        · rw [hdone] at hholds
          cases hholds
        · rw [hwaiting] at hholds
          cases hholds
  rcases done_or_waiting_of_stuck (hend i) with hdone | ⟨-, hheld⟩
  · exact hdone
  · rw [hfree] at hheld
    cases hheld

/-- A move takes one task on, and leaves the others where they are. -/
theorem rank_of_moves (h : Moves store tasks i board board') (j : ι) :
    (board.stage j).rank + [i].count j ≤ (board'.stage j).rank := by
  have hmoved : ∃ stage, board'.stage = (board.move i stage).stage ∧
      (board.stage i).rank < stage.rank := by
    cases h with
    | refuse hready _ => exact ⟨_, rfl, by rw [hready]; decide⟩
    | make _ _ hready _ _ => exact ⟨_, rfl, by rw [hready]; exact Nat.zero_lt_one⟩
    | skip _ hready _ => exact ⟨_, rfl, by rw [hready]; exact Nat.zero_lt_one⟩
    | enter _ hwaiting _ => exact ⟨_, rfl, by rw [hwaiting]; exact Nat.lt_succ_self _⟩
    | load _ _ hholding _ => exact ⟨_, rfl, by rw [hholding]; exact Nat.lt_succ_self _⟩
    | write _ _ _ _ hloaded _ => exact ⟨_, rfl, by rw [hloaded]; exact Nat.lt_succ_self _⟩
    | leave _ hleaving => exact ⟨_, rfl, by rw [hleaving]; exact Nat.lt_succ_self _⟩
  obtain ⟨stage, hstage, hlt⟩ := hmoved
  rw [hstage]
  by_cases hj : j = i
  · rw [hj, stage_move_self, List.count_singleton_self]
    exact hlt
  · rw [stage_move_of_ne hj, List.count_singleton, if_neg (by simpa using Ne.symm hj)]
    exact Nat.le_refl _

/-- **No task moves more than five times.** -/
theorem count_le_of_follow {schedule : List ι} {board : TaskBoard ι} {host : PresetHost}
    (h : Orderly host tasks board) (hrun : follow store tasks schedule board = some board')
    (i : ι) : (board.stage i).rank + schedule.count i ≤ 5 := by
  induction schedule generalizing board with
  | nil => exact (board.stage i).rank_le
  | cons j schedule ih =>
      obtain ⟨next, hnext, hrest⟩ := Option.bind_eq_some_iff.1 hrun
      have hmove := moves_of_advance h.works hnext
      have hrank := rank_of_moves hmove i
      have hlater := ih (h.moves hmove) hrest
      have hcount : ([j] ++ schedule).count i = [j].count i + schedule.count i :=
        List.count_append
      rw [List.singleton_append] at hcount
      omega

end TaskBoard

namespace PresetStore

variable {store : PresetStore} {s : Session PresetHost} {tasks : ι → PresetTask}

/-- What a turn gives. -/
theorem attempt_turn (store : PresetStore) (host : PresetHost) (drawn : List ι) {i : ι}
    (t : Session PresetHost) (hblank : (tasks i).call.isBlank = false) :
    (store.attempt (host.turn tasks drawn i) t).1 =
      .ok ((host.turn tasks drawn i).answer t.state.stored) := by
  rw [(store.attempt_eq_outcome _ t).1, PresetStep.outcome_of_works
    (by rw [PresetHost.call_turn]; exact hblank) PresetHost.failures_turn]
  rfl

/-- What a turn saves is there after a row of turns, if no later turn deletes it and no save drops
it. -/
theorem mem_stored_inTurn {drawn before after : List ι} {i : ι} {p : Preset}
    {presets : List Preset}
    (htimes : ∀ j ∈ i :: after, (s.state.turn tasks drawn j).time.IsProper)
    (hblank : (tasks i).call.isBlank = false)
    (hsaved : (s.state.turn tasks drawn i).answer presets = .saved p)
    (hdelete : ∀ j ∈ after, tasks j ≠ .delete p.id)
    (hkept : p ∉ store.evicted ((i :: after).map (s.state.turn tasks drawn))
      (store.inTurn tasks drawn before s).2) :
    p ∈ (store.inTurn tasks drawn (before ++ i :: after) s).2.state.stored := by
  rw [List.forall_mem_cons] at htimes
  obtain ⟨hfirst, hrest⟩ := not_or.1 (mt List.mem_append.2 hkept)
  have hresult := store.attempt_turn s.state drawn (store.inTurn tasks drawn before s).2 hblank
  rw [PresetStep.answer_eq_saved hsaved] at hresult
  have hthere := mem_stored_of_saved htimes.1 hresult hfirst
  rw [store.inTurn_append]
  show p ∈ (stepThrough store.attempt (after.map (s.state.turn tasks drawn)) _).2.state.stored
  refine mem_stored_stepThrough (List.forall_mem_map.2 htimes.2) hthere ?_ hrest
  intro step hstep
  obtain ⟨j, hj, rfl⟩ := List.mem_map.1 hstep
  rw [PresetHost.call_turn]
  cases htask : tasks j with
  | save name spec => nofun
  | delete id =>
      intro heq
      exact hdelete j hj (htask.trans (congrArg PresetTask.delete (PresetCall.delete.inj heq)))

end PresetStore

/-! ## What tasks give together -/

/-- What a board shows when its tasks have given what they give in turn. -/
structure TaskBoard.GivesInTurn (store : PresetStore) (tasks : ι → PresetTask)
    (s : Session PresetHost) (board : TaskBoard ι) : Prop where
  /-- A blank name is refused, and its task does not come to the lock. -/
  refused : ∀ i, (tasks i).call.isBlank = true → board.stage i =
    .done (.error (.invalidInput "name" "preset name must not be blank"))
  /-- All other tasks take the lock, each once. -/
  order : board.order.Nodup ∧ ∀ i, i ∈ board.order ↔ (tasks i).call.isBlank = false
  /-- The tasks that make a preset draw, each once. -/
  drawn : board.drawn.Nodup ∧ ∀ i, i ∈ board.drawn ↔ (tasks i).makes = true
  /-- What is saved has the id and the instant of the task's own draw. -/
  saved : ∀ i name spec, tasks i = .save name spec → (tasks i).makes = true →
    board.stage i = .done (.ok (.saved
      { id := s.state.ids.id (s.state.ids.drawn + board.drawn.idxOf i)
        name := Text.trimBlanks name
        spec
        createdAt := s.state.clock.instant (s.state.clock.readings + board.drawn.idxOf i) }))
  /-- The results are those of the tasks in a row, in the order of the lock. -/
  results : (store.inTurn tasks board.drawn board.order s).1.map .done = board.order.map board.stage
  /-- And so are all settings. -/
  settings : (store.inTurn tasks board.drawn board.order s).2.state.settings.settings =
    board.session.state.settings.settings
  /-- What was saved, and neither deleted nor dropped after it, is stored. -/
  kept : ∀ before i after p, board.order = before ++ i :: after →
    board.stage i = .done (.ok (.saved p)) → (∀ j ∈ after, tasks j ≠ .delete p.id) →
    p ∉ store.evicted ((i :: after).map (s.state.turn tasks board.drawn))
      (store.inTurn tasks board.drawn before s).2 →
    p ∈ board.session.state.stored

namespace TaskBoard

variable {store : PresetStore} {s : Session PresetHost} {tasks : ι → PresetTask}
  {board : TaskBoard ι} {i : ι} {result : PresetResult}

/-- What an orderly board says of a task that is done. -/
theorem Orderly.of_done {host : PresetHost} (h : Orderly host tasks board)
    (hdone : board.stage i = .done result) :
    (tasks i).call.isBlank = true ∧ i ∉ board.drawn ∧ i ∉ board.order ∧
        result = .error (.invalidInput "name" "preset name must not be blank") ∨
      Begun tasks board i ∧ i ∈ board.order ∧
        ∃ presets, result = .ok ((host.turn tasks board.drawn i).answer presets) := by
  have hfits := h.fits i
  rw [hdone] at hfits
  cases hfits with
  | refused hblank hnew hout _ => exact Or.inl ⟨hblank, hnew, hout, rfl⟩
  | done presets hbegun hin _ => exact Or.inr ⟨hbegun, hin, presets, rfl⟩

omit [DecidableEq ι] in
/-- A blank name makes no preset. -/
theorem makes_of_blank (hblank : (tasks i).call.isBlank = true) : (tasks i).makes = false := by
  cases htask : tasks i with
  | save name spec =>
      rw [htask] at hblank
      exact decide_eq_false (not_not.2 (of_decide_eq_true hblank))
  | delete id => rfl

/-- **When all tasks are done, they have given what they give in turn.** -/
theorem givesInTurn_of_done (horderly : Orderly s.state tasks board)
    (hsettles : Settles store s tasks board)
    (hclock : s.state.clock.IsProperFor board.drawn.length)
    (hdone : ∀ i, ∃ result, board.stage i = .done result) : board.GivesInTurn store tasks s := by
  obtain ⟨settled, hsettled⟩ := hsettles
  have hfree : board.holder = none := by
    cases hheld : board.holder with
    | none => rfl
    | some j =>
        obtain ⟨result, hresult⟩ := hdone j
        have hholds := (horderly.fits j).holder_iff.1 hheld
        rw [hresult] at hholds
        cases hholds
  obtain rfl : board.order = settled := by
    rw [hsettled.order, pending_of_free hfree, List.append_nil]
  constructor
  case refused =>
    intro i hblank
    obtain ⟨result, hresult⟩ := hdone i
    rcases horderly.of_done hresult with ⟨-, -, -, rfl⟩ | ⟨hbegun, -⟩
    · exact hresult
    · rw [hbegun.blank] at hblank
      cases hblank
  case order =>
    refine ⟨horderly.nodup_order, fun i => ?_⟩
    obtain ⟨result, hresult⟩ := hdone i
    rcases horderly.of_done hresult with ⟨hblank, -, hout, -⟩ | ⟨hbegun, hin, -⟩
    · rw [hblank]
      exact iff_of_false hout nofun
    · exact iff_of_true hin hbegun.blank
  case drawn =>
    refine ⟨horderly.nodup_drawn, fun i => ?_⟩
    obtain ⟨result, hresult⟩ := hdone i
    rcases horderly.of_done hresult with ⟨hblank, hnew, -⟩ | ⟨hbegun, -⟩
    · rw [makes_of_blank hblank]
      exact iff_of_false hnew nofun
    · exact hbegun.drawn
  case saved =>
    intro i name spec htask hmakes
    obtain ⟨result, hresult⟩ := hdone i
    rcases horderly.of_done hresult with ⟨hblank, -⟩ | ⟨-, -, presets, rfl⟩
    · rw [makes_of_blank hblank] at hmakes
      cases hmakes
    · rw [hresult, PresetHost.turn_of_save htask]
      rfl
  case results =>
    -- a task that is done shows its result
    have hshown : ∀ i, (board.stage i).result?.map TaskStage.done = some (board.stage i) := by
      intro i
      obtain ⟨result, hresult⟩ := hdone i
      rw [hresult]
      rfl
    have hall := congrArg (List.map (Option.map TaskStage.done)) hsettled.results
    rw [List.map_map, List.map_map] at hall
    refine List.map_injective_iff.2 (fun _ _ => Option.some.inj) ?_
    rw [List.map_map, List.map_map]
    exact hall.trans (List.map_congr_left fun i _ => hshown i)
  case settings => exact hsettled.settings
  case kept =>
    intro before i after p horder hsaved hdelete hkept
    rcases horderly.of_done hsaved with ⟨-, -, -, hrefused⟩ | ⟨hbegun, -, presets, hanswer⟩
    · cases hrefused
    · have htimes : ∀ j ∈ i :: after,
          (s.state.turn tasks board.drawn j).time.IsProper := by
        intro j hj
        have hin : j ∈ board.order := horder ▸ List.mem_append_right before hj
        exact PresetHost.isProper_time_turn hclock fun _ _ htask =>
          ((horderly.fits j).begun_of_mem_order hin).mem_drawn htask
      have hthere := PresetStore.mem_stored_inTurn htimes hbegun.blank
        (Except.ok.inj hanswer).symm hdelete hkept
      rw [← horder] at hthere
      have hstored : board.session.state.stored =
          (store.inTurn tasks board.drawn board.order s).2.state.stored :=
        congrArg Settings.presets hsettled.settings.symm
      rw [hstored]
      exact hthere

end TaskBoard

/-- **No update is lost.**  Tasks that save and delete presets on one session, whatever schedule
they follow, move five times at most; and when none of them can move, all are done, and have given
what they give in turn. -/
theorem tasks_give_in_turn (store : PresetStore) (tasks : ι → PresetTask)
    {s : Session PresetHost} (hworks : s.state.Works) {schedule : List ι} {board : TaskBoard ι}
    (hrun : TaskBoard.follow store tasks schedule { session := s } = some board)
    (hclock : s.state.clock.IsProperFor board.drawn.length) :
    (∀ i, schedule.count i ≤ 5) ∧
      ((∀ i, board.advance store tasks i = none) →
        (∀ i, ∃ result, board.stage i = .done result) ∧ board.GivesInTurn store tasks s) := by
  obtain ⟨horderly, hsettles⟩ := TaskBoard.orderly_and_settles_of_follow hworks hrun
  constructor
  · intro i
    have hcount := TaskBoard.count_le_of_follow (TaskBoard.orderly_start tasks hworks) hrun i
    exact le_trans (Nat.le_add_left _ _) hcount
  · intro hend
    have hdone := horderly.done_of_stuck hend
    exact ⟨hdone, TaskBoard.givesInTurn_of_done horderly hsettles hclock hdone⟩

/-- Three saves, one of them under a blank name, and a deletion. -/
def PresetTask.sample : Fin 4 → PresetTask
  | 0 => .save " a " {}
  | 1 => .save "b" {}
  | 2 => .save " " {}
  | 3 => .delete "preset-2"

/-- The clock moves on by a second with each reading. -/
def PresetHost.ticking : PresetHost := { PresetHost.sample with clock := .steady 0 1000 }

/-- The deletion comes to the lock first and finds nothing; the save that has drawn second comes
next, and its preset is before the other in the list. -/
theorem tasks_give_in_turn_sample :
    let store := PresetStore.withCapacity 2
    let s : Session PresetHost := { state := .ticking }
    let schedule : List (Fin 4) := [0, 1, 2, 3, 3, 3, 3, 3, 1, 1, 1, 1, 0, 0, 0, 0]
    s.state.Works ∧ ∃ board,
      TaskBoard.follow store PresetTask.sample schedule { session := s } = some board ∧
      s.state.clock.IsProperFor board.drawn.length ∧
      (∀ i, board.advance store PresetTask.sample i = none) ∧
      board.order = [3, 1, 0] ∧
      board.stage 0 = .done (.ok (.saved ⟨"preset-1", "a", {}, ⟨0, 0⟩⟩)) ∧
      board.stage 1 = .done (.ok (.saved ⟨"preset-2", "b", {}, ⟨1, 0⟩⟩)) ∧
      board.GivesInTurn store PresetTask.sample s := by
  intro store s schedule
  have hworks : s.state.Works := ⟨rfl, rfl⟩
  have hends : (TaskBoard.follow store PresetTask.sample schedule { session := s }).any
      (fun board => decide (board.drawn = [0, 1] ∧ board.order = [3, 1, 0] ∧
        ∀ i, (board.advance store PresetTask.sample i).isNone = true)) = true := by
    decide +kernel
  obtain ⟨board, hrun, hboard⟩ := (Option.any_eq_true _ _).1 hends
  obtain ⟨hdrawn, horder, hend⟩ := of_decide_eq_true hboard
  have hclock : s.state.clock.IsProperFor board.drawn.length := by
    rw [hdrawn]
    show ∀ n < 2, (s.state.clock.instant (0 + n)).IsProper
    decide
  have hstuck : ∀ i, board.advance store PresetTask.sample i = none :=
    fun i => Option.isNone_iff_eq_none.1 (hend i)
  obtain ⟨-, hgives⟩ := tasks_give_in_turn store PresetTask.sample hworks hrun hclock
  obtain ⟨-, hinTurn⟩ := hgives hstuck
  have hfirst := hinTurn.saved 0 " a " {} rfl (by decide)
  have hsecond := hinTurn.saved 1 "b" {} rfl (by decide)
  rw [hdrawn] at hfirst hsecond
  have hshown {p q : Preset} (h : p = q) :
      TaskStage.done (.ok (.saved p)) = .done (.ok (.saved q)) := by rw [h]
  exact ⟨hworks, board, hrun, hclock, hstuck, horder, hfirst.trans (hshown (by decide)),
    hsecond.trans (hshown (by decide)), hinTurn⟩

end AudioLibrary
