import AudioLibrary.Catalog.Id
import AudioLibrary.Credits
import AudioLibrary.SortedSet
import AudioLibrary.Text.Blank

/-!
# Filters

A `FilterSpec` is a plain value: a search text, tags that must or must not be there, voice actors,
circles, where the files are, and an order.  Every operation gives a new spec.

The search text and the names are kept as they were given; `searchText` is the text that counts.
-/

namespace AudioLibrary

/-- Where an album must, or must not, have its files. -/
inductive SourceFilter where
  | localOnly
  | downloadOnly
  | localAndDownload
  /-- No restriction. -/
  | both
deriving DecidableEq, Repr

/-- The order of results.  Albums that agree in the key are ordered newest first. -/
inductive SortOrder where
  | addedDesc
  | titleAsc
  | rjAsc
  | circleAsc
  | cvAsc
  /-- Latest played first, albums never played last. -/
  | lastPlayedDesc
deriving DecidableEq, Repr, Inhabited

namespace SourceFilter

def name : SourceFilter → String
  | localOnly => "LocalOnly"
  | downloadOnly => "DownloadOnly"
  | localAndDownload => "LocalAndDownload"
  | both => "Both"

def all : List SourceFilter := [localOnly, downloadOnly, localAndDownload, both]

def ofName? (s : String) : Option SourceFilter := all.find? (·.name = s)

theorem ofName?_name (f : SourceFilter) : ofName? f.name = some f := by
  cases f <;> decide

end SourceFilter

namespace SortOrder

def name : SortOrder → String
  | addedDesc => "AddedDesc"
  | titleAsc => "TitleAsc"
  | rjAsc => "RjAsc"
  | circleAsc => "CircleAsc"
  | cvAsc => "CvAsc"
  | lastPlayedDesc => "LastPlayedDesc"

def all : List SortOrder := [addedDesc, titleAsc, rjAsc, circleAsc, cvAsc, lastPlayedDesc]

def ofName? (s : String) : Option SortOrder := all.find? (·.name = s)

theorem ofName?_name (o : SortOrder) : ofName? o.name = some o := by
  cases o <;> decide

end SortOrder

/-- What to list, and in which order. -/
structure FilterSpec where
  textQuery : Option String := none
  includeTags : SortedSet TagId := ∅
  excludeTags : SortedSet TagId := ∅
  voiceActors : SortedSet String := ∅
  circles : SortedSet String := ∅
  source : Option SourceFilter := none
  sort : SortOrder := .addedDesc
deriving DecidableEq, Repr, Inhabited

namespace FilterSpec

/-- A text without the blanks around it, unless nothing is left. -/
def nonBlank (text : String) : Option String :=
  let trimmed := Text.trimBlanks text
  if trimmed.isEmpty then none else some trimmed

/-- The search text that counts. -/
def searchText (spec : FilterSpec) : Option String := spec.textQuery.bind nonBlank

/-- A blank text clears the search. -/
def withTextQuery (spec : FilterSpec) (text : String) : FilterSpec :=
  { spec with textQuery := nonBlank text }

def withoutTextQuery (spec : FilterSpec) : FilterSpec := { spec with textQuery := none }

def withSort (spec : FilterSpec) (sort : SortOrder) : FilterSpec := { spec with sort }

def withSource (spec : FilterSpec) (source : Option SourceFilter) : FilterSpec :=
  { spec with source }

def withIncludeTags (spec : FilterSpec) (tags : List TagId) : FilterSpec :=
  { spec with includeTags := .ofList tags }

def withExcludeTags (spec : FilterSpec) (tags : List TagId) : FilterSpec :=
  { spec with excludeTags := .ofList tags }

def toggleIncludeTag (spec : FilterSpec) (tag : TagId) : FilterSpec :=
  { spec with includeTags := spec.includeTags.toggle tag }

/-- A tag may be in both sets; then nothing matches. -/
def toggleExcludeTag (spec : FilterSpec) (tag : TagId) : FilterSpec :=
  { spec with excludeTags := spec.excludeTags.toggle tag }

/-- Blanks around the name do not count; a blank name changes nothing. -/
def toggleCircle (spec : FilterSpec) (circle : String) : FilterSpec :=
  match nonBlank circle with
  | none => spec
  | some name => { spec with circles := spec.circles.toggle name }

/-- A name without the blanks that normalization drops at its ends, unless nothing is left. -/
def actorName (actor : String) : Option String :=
  let trimmed := String.ofList (Text.trim Credits.isStripped actor.toList)
  if trimmed.isEmpty then none else some trimmed

/-- A name of blanks alone changes nothing. -/
def toggleVoiceActor (spec : FilterSpec) (actor : String) : FilterSpec :=
  match actorName actor with
  | none => spec
  | some name => { spec with voiceActors := spec.voiceActors.toggle name }

/-- Only the search text and the order stay. -/
def clearedFilters (spec : FilterSpec) : FilterSpec :=
  { textQuery := spec.textQuery, sort := spec.sort }

/-- Whether anything but the search text and the order is set. -/
def hasFilters (spec : FilterSpec) : Bool :=
  !spec.includeTags.isEmpty || !spec.excludeTags.isEmpty || !spec.voiceActors.isEmpty ||
    !spec.circles.isEmpty ||
    match spec.source with
    | none | some .both => false
    | some _ => true

/-- The keys of the requested voice actors, each once, in order; names without a key dropped. -/
def actorKeys (spec : FilterSpec) : SortedSet String :=
  .ofList ((spec.voiceActors.toList.map fun name => String.ofList (Credits.key name.toList)).filter
    (· ≠ ""))

/-- The source restriction that counts. -/
def effectiveSource (spec : FilterSpec) : Option SourceFilter :=
  spec.source.filter (· ≠ .both)

theorem toggleIncludeTag_toggleIncludeTag (spec : FilterSpec) (tag : TagId) :
    (spec.toggleIncludeTag tag).toggleIncludeTag tag = spec := by
  simp [toggleIncludeTag, SortedSet.toggle_toggle]

theorem toggleExcludeTag_toggleExcludeTag (spec : FilterSpec) (tag : TagId) :
    (spec.toggleExcludeTag tag).toggleExcludeTag tag = spec := by
  simp [toggleExcludeTag, SortedSet.toggle_toggle]

end FilterSpec

end AudioLibrary
