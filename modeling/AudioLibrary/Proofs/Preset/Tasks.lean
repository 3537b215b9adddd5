import AudioLibrary.Proofs.Preset.Steps
import Mathlib.Logic.Function.Basic

/-!
# Saves and deletions at the same time

Tasks save and delete presets on one session.  A task checks its name and asks for an id and an
instant; waits for the lock; reads the list; writes it; and gives the lock back.  Between these
moves, other tasks may move: a schedule says whose turn it is.

The moves of a task are the parts of its call, so that a task alone does what its call does,
`perform_eq_moves`.  What a move can be when the settings work is said once, `Moves`.

`drawn` and `order` only record what has happened: which tasks have asked for an id and an instant,
and which have taken the lock.
-/

namespace AudioLibrary

/-- A call that changes the presets. -/
inductive PresetTask where
  | save (name : String) (spec : FilterSpec)
  | delete (id : String)

def PresetTask.call : PresetTask → PresetCall
  | .save name spec => .save name spec
  | .delete id => .delete id

/-- What a task does to the list when it has the lock. -/
inductive PresetChange where
  | add (preset : Preset)
  | remove (id : String)

/-- What a task does before it needs the lock. -/
def PresetTask.prepare : PresetTask → Action LibraryError PresetHost PresetChange
  | .save name spec => .add <$> PresetStore.prepare name spec
  | .delete id => pure (.remove id)

/-- Writes the list that was read with a change. -/
def PresetStore.write (store : PresetStore) :
    PresetChange → List Preset → Action LibraryError PresetHost PresetAnswer
  | .add preset, presets => (fun _ => .saved preset) <$> store.addTo preset presets
  | .remove id, presets => .deleted <$> removeFrom id presets

/-- The moves of a task alone make up its call. -/
theorem PresetStore.perform_eq_moves (store : PresetStore) (task : PresetTask) :
    store.perform task.call = (do
      let change ← task.prepare
      let presets ← list
      store.write change presets) := by
  cases task with
  | save name spec =>
      show PresetAnswer.saved <$> store.save name spec = _
      unfold save PresetTask.prepare
      simp only [map_eq_pure_bind, bind_assoc, pure_bind, append_eq, write]
  | delete id =>
      show PresetAnswer.deleted <$> delete id = _
      unfold PresetTask.prepare
      simp only [map_eq_pure_bind, bind_assoc, pure_bind, delete_eq, write]

/-! ## Boards -/

/-- How far a task has come. -/
inductive TaskStage where
  | ready
  /-- It waits for the lock. -/
  | waiting (change : PresetChange)
  /-- It has the lock. -/
  | holding (change : PresetChange)
  /-- It has the lock and has read the list. -/
  | loaded (change : PresetChange) (presets : List Preset)
  /-- It has the lock and has nothing left to do. -/
  | leaving (result : PresetResult)
  | done (result : PresetResult)

/-- Tasks on one session. -/
structure TaskBoard (ι : Type) where
  session : Session PresetHost
  stage : ι → TaskStage := fun _ => .ready
  /-- The task that has the lock. -/
  holder : Option ι := none
  /-- The tasks that have asked for an id and an instant, in order. -/
  drawn : List ι := []
  /-- The tasks that have taken the lock, in order. -/
  order : List ι := []

variable {ι : Type} [DecidableEq ι]

namespace TaskBoard

/-- The board with one task at another stage. -/
def move (board : TaskBoard ι) (i : ι) (stage : TaskStage) : TaskBoard ι :=
  { board with stage := Function.update board.stage i stage }

/-- The next move of a task; none if it is done, or waits for a lock that is taken. -/
def advance (store : PresetStore) (tasks : ι → PresetTask) (i : ι) (board : TaskBoard ι) :
    Option (TaskBoard ι) :=
  match board.stage i with
  | .ready =>
      match (tasks i).prepare.run board.session with
      | (.error e, session) => some { board.move i (.done (.error e)) with session }
      | (.ok (.remove id), session) => some { board.move i (.waiting (.remove id)) with session }
      | (.ok (.add preset), session) =>
          -- only a new preset has an id and an instant
          some { board.move i (.waiting (.add preset)) with
            session, drawn := board.drawn ++ [i] }
  | .waiting change =>
      if board.holder.isSome then none
      else
        some { board.move i (.holding change) with
          holder := some i, order := board.order ++ [i] }
  | .holding change =>
      match PresetStore.list.run board.session with
      | (.error e, session) => some { board.move i (.leaving (.error e)) with session }
      | (.ok presets, session) => some { board.move i (.loaded change presets) with session }
  | .loaded change presets =>
      let (result, session) := (store.write change presets).run board.session
      some { board.move i (.leaving result) with session }
  | .leaving result => some { board.move i (.done result) with holder := none }
  | .done _ => none

/-- The moves of a schedule, if each of them is possible. -/
def follow (store : PresetStore) (tasks : ι → PresetTask) :
    List ι → TaskBoard ι → Option (TaskBoard ι)
  | [], board => some board
  | i :: schedule, board => (board.advance store tasks i).bind (follow store tasks schedule)

/-- What every move keeps, every schedule keeps. -/
theorem follow_keeps {store : PresetStore} {tasks : ι → PresetTask} {P : TaskBoard ι → Prop}
    (hmove : ∀ i board board', P board → board.advance store tasks i = some board' → P board')
    (schedule : List ι) {board board' : TaskBoard ι} (h : P board)
    (hfollow : follow store tasks schedule board = some board') : P board' := by
  induction schedule generalizing board with
  | nil =>
      cases hfollow
      exact h
  | cons i schedule ih =>
      obtain ⟨next, hnext, hrest⟩ := Option.bind_eq_some_iff.1 hfollow
      exact ih (hmove i board next h hnext) hrest

/-! ## Moves -/

/-- What a move of a task can be when the settings work. -/
inductive Moves (store : PresetStore) (tasks : ι → PresetTask) (i : ι) (board : TaskBoard ι) :
    TaskBoard ι → Prop
  | refuse : board.stage i = .ready → (tasks i).call.isBlank = true →
      Moves store tasks i board (board.move i
        (.done (.error (.invalidInput "name" "preset name must not be blank"))))
  | make (name : String) (spec : FilterSpec) : board.stage i = .ready →
      tasks i = .save name spec → Text.trimBlanks name ≠ "" →
      Moves store tasks i board
        { board.move i (.waiting
            (.add (PresetStore.made board.session.state (Text.trimBlanks name) spec))) with
          session := { board.session with state := PresetStore.afterMaking board.session.state }
          drawn := board.drawn ++ [i] }
  | skip (id : String) : board.stage i = .ready → tasks i = .delete id →
      Moves store tasks i board (board.move i (.waiting (.remove id)))
  | enter (change : PresetChange) : board.stage i = .waiting change → board.holder = none →
      Moves store tasks i board
        { board.move i (.holding change) with holder := some i, order := board.order ++ [i] }
  | load (change : PresetChange) (session : Session PresetHost) :
      board.stage i = .holding change → session.state = board.session.state →
      Moves store tasks i board
        { board.move i (.loaded change board.session.state.stored) with session }
  | write (change : PresetChange) (presets : List Preset) (result : PresetResult)
      (session : Session PresetHost) : board.stage i = .loaded change presets →
      (store.write change presets).run board.session = (result, session) →
      Moves store tasks i board { board.move i (.leaving result) with session }
  | leave (result : PresetResult) : board.stage i = .leaving result →
      Moves store tasks i board { board.move i (.done result) with holder := none }

theorem moves_of_advance {store : PresetStore} {tasks : ι → PresetTask} {i : ι}
    {board board' : TaskBoard ι} (hworks : board.session.state.Works)
    (h : board.advance store tasks i = some board') : Moves store tasks i board board' := by
  unfold advance at h
  cases hstage : board.stage i with
  | ready =>
      rw [hstage] at h
      cases htask : tasks i with
      | save name spec =>
          rw [htask] at h
          by_cases hname : Text.trimBlanks name = ""
          · have hrun : (PresetTask.save name spec).prepare.run board.session = _ :=
              Action.run_map_error PresetChange.add
                (PresetStore.run_prepare_blank spec hname board.session)
            rw [hrun] at h
            cases h
            exact .refuse hstage (by rw [htask]; exact decide_eq_true hname)
          · have hrun : (PresetTask.save name spec).prepare.run board.session = _ :=
              Action.run_map_ok PresetChange.add
                (PresetStore.run_prepare spec hname board.session)
            rw [hrun] at h
            cases h
            exact .make name spec hstage htask hname
      | delete id =>
          rw [htask] at h
          cases h
          exact .skip id hstage htask
  | waiting change =>
      rw [hstage] at h
      dsimp only at h
      split at h
      · cases h
      · next hfree =>
          cases h
          exact .enter change hstage (by simpa using hfree)
  | holding change =>
      rw [hstage] at h
      obtain ⟨session, hlist, hstate⟩ := PresetStore.run_list hworks.1
      rw [hlist] at h
      cases h
      exact .load change session hstage hstate
  | loaded change presets =>
      rw [hstage] at h
      cases h
      exact .write change presets _ _ hstage rfl
  | leaving result =>
      rw [hstage] at h
      cases h
      exact .leave result hstage
  | done result =>
      rw [hstage] at h
      cases h

end TaskBoard

end AudioLibrary
