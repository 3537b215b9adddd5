import AudioLibrary.Config.Logging
import AudioLibrary.Page

/-!
# Configuration

What the service needs to start.  A `ConfigDraft` is what a host has filled in; `build` completes it
with defaults and validates it.
-/

namespace AudioLibrary

/-- How to reach a database. -/
structure DatabaseConfig where
  url : String
  minConnections : UInt32 := 1
  maxConnections : UInt32
  /-- Seconds to wait for a connection. -/
  acquireTimeout : UInt64 := 30
  cacheStatements : Bool := true
  cachedStatements : Nat := 100
deriving DecidableEq, Repr

namespace DatabaseConfig

/-- What the address of a database starts with. -/
def scheme : String := "sqlite:"

/-- The path of a database that is not kept. -/
def memoryPath : String := ":memory:"

def ofPath (path : String) : DatabaseConfig := { url := scheme ++ path, maxConnections := 5 }

/-- A database that is not kept.  Each connection would open one of its own, so there is but one. -/
def inMemory : DatabaseConfig := { url := scheme ++ memoryPath, maxConnections := 1 }

def withMaxConnections (c : DatabaseConfig) (max : UInt32) : DatabaseConfig :=
  { c with maxConnections := max }

end DatabaseConfig

structure CoreConfig where
  databasePath : String
  maxConnections : UInt32 := 5
  pageSize : UInt32 := PageRequest.defaultSize
  presetCapacity : UInt64 := 50
  logging : LoggingConfig := {}
deriving DecidableEq, Repr

namespace CoreConfig

def maxPageSize : UInt32 := 500

def maxPresetCapacity : UInt64 := 500

/-- Whether the values are in their ranges; the first that is not gives the error. -/
def validate (c : CoreConfig) : Except RuntimeError Unit := do
  if c.databasePath.isEmpty then
    throw (.config "Database path cannot be empty")
  if c.maxConnections = 0 then
    throw (.config "max_connections must be at least 1")
  if c.pageSize = 0 ∨ maxPageSize < c.pageSize then
    throw (.config ("page_size must be between 1 and " ++ toString maxPageSize.toNat ++ ", got " ++
      toString c.pageSize.toNat))
  if c.presetCapacity = 0 ∨ maxPresetCapacity < c.presetCapacity then
    throw (.config ("preset_capacity must be between 1 and " ++ toString maxPresetCapacity.toNat ++
      ", got " ++ toString c.presetCapacity.toNat))

/-- The configuration as text. -/
def describe (c : CoreConfig) : String :=
  describeRecord "CoreConfig"
    [("database_path", Text.quoted c.databasePath),
     ("max_connections", toString c.maxConnections.toNat),
     ("page_size", toString c.pageSize.toNat),
     ("preset_capacity", toString c.presetCapacity.toNat),
     ("settings_store", "\"SettingsStore \x7b ... \x7d\""), ("logging", c.logging.describe)]

/-- The database that the configuration names. -/
def database (c : CoreConfig) : DatabaseConfig :=
  (DatabaseConfig.ofPath c.databasePath).withMaxConnections c.maxConnections

end CoreConfig

/-- What a host has filled in of a configuration. -/
structure ConfigDraft where
  databasePath : Option String := none
  maxConnections : Option UInt32 := none
  pageSize : Option UInt32 := none
  presetCapacity : Option UInt64 := none
  /-- Whether there are settings to keep presets in. -/
  settings : Bool := false
  logging : Option LoggingConfig := none
deriving DecidableEq, Repr

namespace ConfigDraft

/-- The error for a host without settings. -/
def settingsMissing : RuntimeError :=
  .capabilityMissing "SettingsStore"
    ("SettingsStore implementation is required to persist filter presets. " ++
      "Desktop: inject a file-backed store. " ++
      "Mobile: inject platform-native settings (UserDefaults/DataStore). " ++
      "Tests: use bridge_traits::InMemorySettingsStore.")

/-- The configuration that a draft stands for. -/
def complete (d : ConfigDraft) (databasePath : String) : CoreConfig :=
  let standard : CoreConfig := { databasePath }
  { databasePath
    maxConnections := d.maxConnections.getD standard.maxConnections
    pageSize := d.pageSize.getD standard.pageSize
    presetCapacity := d.presetCapacity.getD standard.presetCapacity
    logging := d.logging.getD standard.logging }

/-- The configuration that a draft stands for, if it is valid. -/
def build (d : ConfigDraft) : Except RuntimeError CoreConfig := do
  match d.databasePath with
  | none => throw (.config "Database path is required. Use .database_path() to set it.")
  | some path =>
      if !d.settings then
        throw settingsMissing
      let config := d.complete path
      config.validate
      return config

end ConfigDraft

end AudioLibrary
