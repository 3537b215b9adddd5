/-!
# Log levels

Five levels, from the finest to the gravest.
-/

namespace AudioLibrary

inductive LogLevel where
  | trace
  | debug
  | info
  | warn
  | error
deriving DecidableEq, Repr, Inhabited, Ord

namespace LogLevel

def all : List LogLevel := [trace, debug, info, warn, error]

/-- The name in settings. -/
def name : LogLevel → String
  | trace => "Trace"
  | debug => "Debug"
  | info => "Info"
  | warn => "Warn"
  | error => "Error"

def ofName? (s : String) : Option LogLevel := all.find? (·.name = s)

/-- The name in log lines. -/
def label : LogLevel → String
  | trace => "TRACE"
  | debug => "DEBUG"
  | info => "INFO"
  | warn => "WARN"
  | error => "ERROR"

/-- The name in filter directives. -/
def directive : LogLevel → String
  | trace => "trace"
  | debug => "debug"
  | info => "info"
  | warn => "warn"
  | error => "error"

instance : LE LogLevel := leOfOrd

/-- The level at and above which a sink takes entries, unless it says otherwise. -/
def sinkDefault : LogLevel := info

theorem ofName?_name (l : LogLevel) : ofName? l.name = some l := by
  cases l <;> decide

end LogLevel

end AudioLibrary
