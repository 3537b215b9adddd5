import AudioLibrary.Filter.Spec
import AudioLibrary.Json.Printer
import AudioLibrary.Json.Reader

/-!
# The stored form of a filter

A spec is stored as a JSON object of seven members.  Reading takes any of them away for the default
and passes over members it does not know, so that a spec survives a change of the schema.
-/

namespace AudioLibrary.FilterSpec

/-- The names of the members, in the order in which they are written. -/
def memberNames : List String :=
  ["text_query", "include_tag_ids", "exclude_tag_ids", "voice_actors", "circles", "source", "sort"]

def tagsToJson (tags : SortedSet TagId) : Json :=
  .array (tags.toList.map fun tag => .ofInt64 tag.value)

def namesToJson (names : SortedSet String) : Json :=
  .array (names.toList.map Json.ofString)

def toJson (spec : FilterSpec) : Json :=
  .record
    [("text_query", .ofOption .ofString spec.textQuery),
     ("include_tag_ids", tagsToJson spec.includeTags),
     ("exclude_tag_ids", tagsToJson spec.excludeTags),
     ("voice_actors", namesToJson spec.voiceActors),
     ("circles", namesToJson spec.circles),
     ("source", .ofOption (fun f => .ofString f.name) spec.source),
     ("sort", .ofString spec.sort.name)]

def readTags? (j : Json) : Option (SortedSet TagId) :=
  (j.list? fun item => item.int64?.map TagId.mk).map .ofList

def readNames? (j : Json) : Option (SortedSet String) :=
  (j.list? Json.string?).map .ofList

def ofJson? (j : Json) : Option FilterSpec := do
  let fields ← j.fields? memberNames
  return {
    textQuery := ← Json.defaulted? fields "text_query" none (Json.option? Json.string?)
    includeTags := ← Json.defaulted? fields "include_tag_ids" ∅ readTags?
    excludeTags := ← Json.defaulted? fields "exclude_tag_ids" ∅ readTags?
    voiceActors := ← Json.defaulted? fields "voice_actors" ∅ readNames?
    circles := ← Json.defaulted? fields "circles" ∅ readNames?
    source :=
      ← Json.defaulted? fields "source" none (Json.option? (Json.unit? SourceFilter.ofName?))
    sort := ← Json.defaulted? fields "sort" .addedDesc (Json.unit? SortOrder.ofName?)
  }

/-- The stored text. -/
def render (spec : FilterSpec) : String := spec.toJson.render

/-- The spec that a stored text spells. -/
def parse? (text : String) : Option FilterSpec := (Json.parse? text).bind ofJson?

end AudioLibrary.FilterSpec
