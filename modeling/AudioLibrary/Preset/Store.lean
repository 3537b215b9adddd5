import AudioLibrary.Action
import AudioLibrary.Preset.IdSource
import AudioLibrary.Preset.Stored
import AudioLibrary.Settings
import AudioLibrary.Time.Clock

/-!
# The preset store

Presets live in the host's settings under one name.  Only the newest `capacity` of them are kept.  A
stored text that is no list of presets is logged and counts as an empty list; the next save
replaces it.
-/

namespace AudioLibrary

/-- What the preset store works with. -/
structure PresetHost where
  settings : SettingsStore := {}
  clock : Time.Clock
  ids : IdSource

structure PresetStore where
  capacity : Nat := 50

namespace PresetStore

/-- The name under which the presets are stored. -/
def key : String := "library.filter_presets.v1"

/-- A store that keeps at least one preset. -/
def withCapacity (capacity : Nat) : PresetStore := ⟨max capacity 1⟩

/-! ## Events -/

def target : String := "core_library::presets"

def discardedEvent : LogEvent :=
  { level := .warn, target, message := "Discarding unreadable filter presets"
    fields := [("error", "not a list of presets"), ("key", key)] }

def droppedEvent (dropped : Nat) : LogEvent :=
  { level := .debug, target, message := "Dropped oldest filter presets"
    fields := [("dropped", toString dropped)] }

def savedEvent (id : String) (total : Nat) : LogEvent :=
  { level := .info, target, message := "Saved filter preset"
    fields := [("preset_id", id), ("total", toString total)] }

def deletedEvent (id : String) : LogEvent :=
  { level := .info, target, message := "Deleted filter preset", fields := [("preset_id", id)] }

/-! ## Rules -/

/-- The name to save under: blanks around it do not count, and something must be left. -/
def checkedName (name : String) : Except LibraryError String :=
  let trimmed := Text.trimBlanks name
  if trimmed.isEmpty then .error (.invalidInput "name" "preset name must not be blank")
  else .ok trimmed

/-- How many presets are too many. -/
def overflow (store : PresetStore) (presets : List Preset) : Nat := presets.length - store.capacity

/-- The list with a new preset and without the oldest beyond the capacity. -/
def appended (store : PresetStore) (presets : List Preset) (preset : Preset) : List Preset :=
  let all := presets ++ [preset]
  all.drop (store.overflow all)

/-- The list without the presets of an id. -/
def without (presets : List Preset) (id : String) : List Preset := presets.filter (·.id ≠ id)

/-! ## Settings and clock -/

/-- The instant that the clock gives. -/
def readClock {ε : Type} : Action ε PresetHost Time.Instant := do
  let host ← Action.getState
  let (time, clock) := host.clock.read
  Action.setState { host with clock }
  return time

/-- An id that no other preset has. -/
def drawId {ε : Type} : Action ε PresetHost String := do
  let host ← Action.getState
  let (id, ids) := host.ids.draw
  Action.setState { host with ids }
  return id

/-- The stored text. -/
def readText : Action LibraryError PresetHost (Option String) := do
  let host ← Action.getState
  Action.ofBridge (host.settings.read key)

/-- Replaces the stored list. -/
def writeAll (presets : List Preset) : Action LibraryError PresetHost Unit := do
  let host ← Action.getState
  let settings ← Action.ofBridge (host.settings.write key (Preset.renderAll presets))
  Action.setState { host with settings }

/-! ## Calls -/

/-- The stored presets, oldest first. -/
def list : Action LibraryError PresetHost (List Preset) := do
  match ← readText with
  | none => return []
  | some text =>
      match Preset.parseAll? text with
      | some presets => return presets
      | none =>
          Action.emit discardedEvent
          return []

/-- The first preset with an id. -/
def find (id : String) : Action LibraryError PresetHost (Option Preset) := do
  return (← list).find? (·.id = id)

/-- A preset with an id and the time, under a name that something is left of. -/
def prepare (name : String) (spec : FilterSpec) : Action LibraryError PresetHost Preset := do
  -- a blank name is refused before the clock is read
  let name ← checkedName name
  let id ← drawId
  let createdAt ← readClock
  return { id, name, spec, createdAt }

/-- Adds a preset to the stored list. -/
def append (store : PresetStore) (preset : Preset) : Action LibraryError PresetHost Unit := do
  let presets ← list
  let dropped := store.overflow (presets ++ [preset])
  if 0 < dropped then
    Action.emit (droppedEvent dropped)
  let kept := store.appended presets preset
  writeAll kept
  Action.emit (savedEvent preset.id kept.length)

/-- Saves a filter under a name. -/
def save (store : PresetStore) (name : String) (spec : FilterSpec) :
    Action LibraryError PresetHost Preset := do
  let preset ← prepare name spec
  store.append preset
  return preset

/-- Deletes every preset with an id, and says whether there was one. -/
def delete (id : String) : Action LibraryError PresetHost Bool := do
  let presets ← list
  let kept := without presets id
  -- nothing is written when nothing is deleted
  if kept.length = presets.length then
    return false
  writeAll kept
  Action.emit (deletedEvent id)
  return true

end PresetStore

end AudioLibrary
