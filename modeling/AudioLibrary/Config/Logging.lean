import AudioLibrary.Error
import AudioLibrary.Log.Filter
import AudioLibrary.Log.Level
import AudioLibrary.Text.Quoted

/-!
# Logging configuration

How log lines look and which of them appear.  Installing a configuration fails if its filter cannot
be read or if the process logs already.
-/

namespace AudioLibrary

inductive LogFormat where
  | pretty
  | json
  | compact
deriving DecidableEq, Repr

namespace LogFormat

def name : LogFormat → String
  | pretty => "Pretty"
  | json => "Json"
  | compact => "Compact"

def all : List LogFormat := [pretty, json, compact]

def ofName? (s : String) : Option LogFormat := all.find? (·.name = s)

end LogFormat

structure LoggingConfig where
  format : LogFormat := .pretty
  /-- The level of the library's own parts. -/
  level : LogLevel := .info
  /-- Stands for the filter that the level would give. -/
  filter : Option String := none
  /-- Whether the host takes entries. -/
  sink : Bool := false
  spans : Bool := false
  showTarget : Bool := true
  threadInfo : Bool := false
deriving DecidableEq, Repr

/-- A flag as text. -/
def describeFlag (b : Bool) : String := if b then "true" else "false"

/-- A record as text, from the texts of its fields. -/
def describeRecord (name : String) (fields : List (String × String)) : String :=
  name ++ " \x7b " ++ ", ".intercalate (fields.map fun f => f.1 ++ ": " ++ f.2) ++ " \x7d"

/-- An optional text as text. -/
def describeOption : Option String → String
  | none => "None"
  | some s => "Some(" ++ s ++ ")"

namespace LoggingConfig

/-- The configuration as text. -/
def describe (c : LoggingConfig) : String :=
  describeRecord "LoggingConfig"
    [("format", c.format.name), ("level", c.level.name),
     ("filter", describeOption (c.filter.map Text.quoted)),
     ("logger_sink",
       describeOption (if c.sink then some "\"LoggerSink \x7b ... \x7d\"" else none)),
     ("enable_spans", describeFlag c.spans), ("display_target", describeFlag c.showTarget),
     ("display_thread_info", describeFlag c.threadInfo)]

/-- The parts whose entries follow the level. -/
def ownTargets : List String := ["bridge_traits", "core_runtime", "core_library", "core_service"]

/-- The filter that counts: the one that was set, or the level for the library's own parts. -/
def effectiveFilter (c : LoggingConfig) : String :=
  c.filter.getD
    (",".intercalate (ownTargets.map fun target => target ++ "=" ++ c.level.directive))

/-- Whether the filter can be read. -/
def checkFilter (c : LoggingConfig) : Except RuntimeError Unit :=
  (LogFilter.check c.effectiveFilter).mapError fun refusal =>
    .config ("Invalid log filter '" ++ c.effectiveFilter ++ "': " ++ refusal.message)

/-- What installing says when the process logs already. -/
def alreadyInstalled : String := "a global default trace dispatcher has already been set"

/-- Installs the configuration in a process that logs already, or not yet. -/
def install (c : LoggingConfig) (installed : Bool) : Except RuntimeError Unit := do
  c.checkFilter
  if installed then throw (.logging alreadyInstalled)

end LoggingConfig

end AudioLibrary
