import AudioLibrary.Json.Printer
import AudioLibrary.Log.Level
import AudioLibrary.Text.Quoted
import AudioLibrary.Time.Timestamp

/-!
# Log entries

The library emits `LogEvent`s.  Each is a message with named texts as fields; no field stands twice.
An event that happens within a call carries the name of the call as its field `span`.  What a host
gets is a `LogEntry`, an event with its time.
-/

namespace AudioLibrary

structure LogEvent where
  level : LogLevel
  /-- The part of the library that speaks. -/
  target : String
  message : String
  fields : List (String × String) := []
deriving DecidableEq, Repr

namespace LogEvent

/-- The event with a field; an older field of that name is replaced. -/
def withField (e : LogEvent) (name value : String) : LogEvent :=
  { e with fields := e.fields.filter (·.1 ≠ name) ++ [(name, value)] }

/-- The event with the fields of a list. -/
def withFields (e : LogEvent) (fields : List (String × String)) : LogEvent :=
  fields.foldl (fun e field => e.withField field.1 field.2) e

/-- The event within a span, if there is one. -/
def within (e : LogEvent) : Option String → LogEvent
  | none => e
  | some span => e.withField "span" span

end LogEvent

/-- The events that a sink takes. -/
def LogLevel.taken (minimum : LogLevel) (events : List LogEvent) : List LogEvent :=
  events.filter fun e => minimum ≤ e.level

/-- An event at its time. -/
structure LogEntry extends LogEvent where
  time : Time.Instant
deriving Repr

namespace LogEntry

def toJson (e : LogEntry) : Json :=
  .record
    [("level", .ofString e.level.name), ("timestamp", .ofString (Time.Timestamp.print e.time)),
     ("target", .ofString e.target), ("message", .ofString e.message),
     ("fields", .record (e.fields.map fun f => (f.1, .ofString f.2)))]

/-! ## Lines on a console -/

/-- The fields in braces, names and values in quotes. -/
def fieldList (fields : List (String × String)) : String :=
  "\x7b" ++ ", ".intercalate (fields.map fun f => Text.quoted f.1 ++ ": " ++ Text.quoted f.2) ++
    "\x7d"

/-- What a console shows of an entry. -/
def lines (e : LogEntry) : String :=
  "[" ++ Time.Timestamp.printPlain e.time ++ "] " ++ e.level.label ++ " " ++ e.target ++ ": " ++
    e.message ++ "\n" ++
    if e.fields.isEmpty then "" else "  Fields: " ++ fieldList e.fields ++ "\n"

/-- What a console prints that takes entries from a level on. -/
def printed (minimum : LogLevel) (e : LogEntry) : String :=
  if minimum ≤ e.level then e.lines else ""

end LogEntry

end AudioLibrary
