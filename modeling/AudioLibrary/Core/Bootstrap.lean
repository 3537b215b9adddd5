import AudioLibrary.Core.Disk
import AudioLibrary.Preset.Store
import AudioLibrary.Query.Service
import AudioLibrary.Query.Stream
import AudioLibrary.Store.Database

/-!
# Starting the service

`bootstrap` validates a configuration, installs logging, opens and migrates the database.  A process
that logs already keeps doing so.  A `Core` is the service with all that it works on.
-/

namespace AudioLibrary

structure Core where
  disk : Disk := {}
  /-- Where the open database is kept, if it is. -/
  place : Option Place := none
  database : Database := {}
  presets : PresetHost

namespace Core

/-! ## Parts -/

/-- Runs an action on the database. -/
def onDatabase {ε α : Type} (x : Action ε Database α) : Action ε Core α :=
  x.onPart Core.database fun database core => { core with database }

/-- Runs an action on settings and clock. -/
def onPresets {ε α : Type} (x : Action ε PresetHost α) : Action ε Core α :=
  x.onPart Core.presets fun presets core => { core with presets }

/-- The library over the database. -/
def library (config : CoreConfig) : LibraryService Database :=
  { adapter := Database.adapter, pageSize := config.pageSize }

/-- The presets in the settings. -/
def presetStore (config : CoreConfig) : PresetStore :=
  PresetStore.withCapacity config.presetCapacity.toNat

/-! ## Events -/

def target : String := "core_service"

/-- What is logged when the process logs already. -/
def keptLoggingEvent (reason : String) : LogEvent :=
  { level := .warn, target, message := "Keeping the existing tracing subscriber"
    fields := [("reason", reason)] }

/-- What is logged when the service is ready. -/
def readyEvent (config : CoreConfig) : LogEvent :=
  { level := .info, target, message := "Library core ready"
    fields :=
      [("page_size", toString config.pageSize.toNat),
        ("preset_capacity", toString config.presetCapacity.toNat)] }

/-! ## Steps -/

/-- Installs logging in a process that may log already. -/
def installLogging (config : CoreConfig) (installed : Bool) : Action CoreError Core Unit :=
  match config.logging.install installed with
  | .ok () => pure ()
  -- only a filter that cannot be read stops the service
  | .error (.logging reason) => Action.emit (keptLoggingEvent reason)
  | .error e => throw (CoreError.ofRuntime e)

/-- The error of a step that fails. -/
def initializationFailed (e : BridgeError) : CoreError := .initializationFailed e.message

/-- What is said of a database that cannot be opened. -/
def openErrorText : OpenError → String
  | .nulInName =>
      "error communicating with database: filename passed to SQLite must not contain nul bytes"
  | .engine code message => Database.engineText code message

/-- Opens the database that a configuration names. -/
def openDatabase (c : DatabaseConfig) : Action CoreError Core Unit := do
  Action.emit (Database.openingEvent c)
  match Location.ofUrl c.url with
  | .error text =>
      throw (initializationFailed
        (.database ("Invalid database URL: error with configuration: " ++ text)))
  | .ok location =>
      let core ← Action.getState
      match (Opening.ofLocation location).bind core.disk.openStore with
      | .error e =>
          let text := openErrorText e
          Action.emit
            (Database.event .warn "Failed to create connection pool" [("error", text)])
          throw (initializationFailed (.database ("Connection pool creation failed: " ++ text)))
      | .ok opened =>
          let database : Database := { store := opened.store, readOnly := opened.readOnly }
          Action.setState { core with place := opened.place, database }
          Action.emit (Database.openedEvent c)

/-- Starts the service. -/
def bootstrap (config : CoreConfig) (installed : Bool) : Action CoreError Core Unit := do
  (config.validate.mapError CoreError.ofRuntime : Except CoreError Unit)
  installLogging config installed
  openDatabase config.database
  onDatabase (Database.migrate.adapt initializationFailed)
  Action.emit (readyEvent config)

/-- Starts the service again on what the last run left. -/
def restart (config : CoreConfig) (installed : Bool) : Action CoreError Core Unit := do
  Action.modifyState fun core =>
    match core.place with
    | some place =>
        { core with disk := core.disk.keep place core.database.store (!core.database.closed) }
    | none => core
  bootstrap config installed

end Core

end AudioLibrary
