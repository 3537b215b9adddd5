import AudioLibrary.Filter.Stored
import AudioLibrary.Time.Timestamp

/-!
# Presets and their stored form

A preset is a filter under a name.  Presets are stored together as one JSON array, oldest first.
-/

namespace AudioLibrary

structure Preset where
  id : String
  name : String
  spec : FilterSpec
  createdAt : Time.Instant
deriving DecidableEq, Repr

namespace Preset

/-- The names of the members, in the order in which they are written. -/
def memberNames : List String := ["id", "name", "spec", "created_at"]

def toJson (p : Preset) : Json :=
  .record
    [("id", .ofString p.id), ("name", .ofString p.name), ("spec", p.spec.toJson),
     ("created_at", .ofString (Time.Timestamp.print p.createdAt))]

def ofJson? (j : Json) : Option Preset := do
  let fields ← j.allFields? memberNames
  return {
    id := ← Json.required? fields "id" Json.string?
    name := ← Json.required? fields "name" Json.string?
    spec := ← Json.required? fields "spec" FilterSpec.ofJson?
    createdAt := ← Json.required? fields "created_at" fun j => j.string?.bind Time.Timestamp.parse?
  }

/-- The stored text of a list of presets. -/
def renderAll (presets : List Preset) : String := (Json.array (presets.map toJson)).render

/-- The presets that a stored text spells. -/
def parseAll? (text : String) : Option (List Preset) :=
  (Json.parse? text).bind fun j => j.list? ofJson?

end Preset

end AudioLibrary
