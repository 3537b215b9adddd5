import AudioLibrary.Store.Affinity
import AudioLibrary.Store.Name

/-!
# Schema

The tables of the library: albums and their tracks, tags of both, play statistics of albums and
subtitles of tracks.  Rows refer to others by number and go when those go.
-/

namespace AudioLibrary

/-- A table, with those that it refers to before it. -/
inductive Table where
  | albums
  | tags
  | tracks
  | albumTags
  | playStats
  | trackTags
  | subtitles
  | remoteSubtitles
deriving DecidableEq, Repr

structure Column where
  name : String
  affinity : Affinity
  /-- Whether there must be a value. -/
  required : Bool := true
  /-- The value of a row that gives none. -/
  standard : Value := .null
deriving DecidableEq, Repr

namespace Column

/-- A text that must be given. -/
def text (name : String) : Column := { name, affinity := .text }

/-- A text, empty unless one is given. -/
def textOrEmpty (name : String) : Column := { name, affinity := .text, standard := .text "" }

/-- A text or nothing. -/
def optionalText (name : String) : Column := { name, affinity := .text, required := false }

/-- An integer that must be given. -/
def integer (name : String) : Column := { name, affinity := .integer }

/-- An integer, zero unless one is given. -/
def integerOrZero (name : String) : Column :=
  { name, affinity := .integer, standard := .integer 0 }

end Column

inductive KeyKind where
  /-- The number of a row, where no column holds it. -/
  | number
  /-- What rows are known by. -/
  | primary
  | other
deriving DecidableEq, Repr

/-- Columns whose values together stand in one row only. -/
structure UniqueKey where
  columns : List String
  kind : KeyKind := .other

namespace Table

/-- All tables, each after those that it refers to. -/
def all : List Table :=
  [albums, tags, tracks, albumTags, playStats, trackTags, subtitles, remoteSubtitles]

def name : Table → String
  | albums => "albums"
  | tags => "tags"
  | tracks => "tracks"
  | albumTags => "album_tag"
  | playStats => "album_play_stats"
  | trackTags => "track_tag"
  | subtitles => "subtitles"
  | remoteSubtitles => "remote_subtitle_sources"

def ofName? (s : String) : Option Table := all.find? (·.name = s)

/-- The table that a host means by a name. -/
def named? (s : String) : Option Table := all.find? fun t => sameName t.name s

/-- What a row's number is called where no column holds it. -/
def hiddenNumber : String := "rowid"

/-- What holds a row's number. -/
def numberColumn : Table → String
  | albumTags | trackTags => hiddenNumber
  | playStats => "album_id"
  | _ => "id"

/-- Whether a number is never given again. -/
def numbersOnce : Table → Bool
  | albumTags | trackTags | playStats => false
  | _ => true

/-- The columns in their order. -/
def columns : Table → List Column
  | albums =>
      [.integer "id", .text "title", .text "path", .optionalText "local_path",
        .optionalText "download_path", .textOrEmpty "circle", .textOrEmpty "cv",
        .textOrEmpty "tags", .textOrEmpty "cover_url", .textOrEmpty "cover_path",
        .textOrEmpty "cover_thumb_path", .textOrEmpty "work_id", .textOrEmpty "rj_code",
        { name := "rating_value", affinity := .real, required := false },
        .integerOrZero "rating_count", .textOrEmpty "release_date", .integerOrZero "dl_count",
        .integerOrZero "price_jpy", .integerOrZero "has_asmr_one", .textOrEmpty "description"]
  | tags => [.integer "id", .text "name", .text "name_normalized"]
  | tracks =>
      [.integer "id", .integer "album_id", .text "title", .text "path",
        { name := "duration", affinity := .real, standard := .integer 0 },
        .textOrEmpty "group_label"]
  | albumTags => [.integer "album_id", .integer "tag_id", .integerOrZero "source"]
  | playStats => [.integer "album_id", .integer "last_played_at", .integerOrZero "play_count"]
  | trackTags => [.integer "track_id", .integer "tag_id", .integerOrZero "source"]
  | subtitles =>
      [.integer "id", .integer "track_id", .integer "start_ms", .integer "end_ms", .text "text"]
  | remoteSubtitles =>
      [.integer "id", .integer "track_id", .text "url", .textOrEmpty "language", .textOrEmpty "ext"]

/-- Whether one of the columns holds a row's number. -/
def listsNumber (t : Table) : Bool := (t.columns.map Column.name).contains t.numberColumn

/-- What the number of a row is called in every table. -/
def numberNames : List String := [hiddenNumber, "oid", "_rowid_"]

/-- The column that a host means by a name. -/
def columnNamed? (t : Table) (s : String) : Option String :=
  ((t.columns.map Column.name).find? (sameName s)).or
    (if numberNames.any (sameName s) then some t.numberColumn else none)

/-- The keys besides the number, in the order in which they are checked. -/
def uniqueKeys : Table → List UniqueKey
  | tags => [{ columns := ["name_normalized"] }, { columns := ["name"] }]
  | albumTags => [{ columns := ["album_id", "tag_id"], kind := .primary }]
  | trackTags => [{ columns := ["track_id", "tag_id"], kind := .primary }]
  | _ => []

/-- The key that the number is. -/
def numberKey (t : Table) : UniqueKey :=
  { columns := [t.numberColumn], kind := if t.listsNumber then .primary else .number }

/-- All keys in the order in which they are checked. -/
def keys (t : Table) : List UniqueKey := t.numberKey :: t.uniqueKeys

/-- The columns that hold numbers of rows elsewhere. -/
def references : Table → List (String × Table)
  | albums | tags => []
  | tracks | playStats => [("album_id", albums)]
  | albumTags => [("album_id", albums), ("tag_id", tags)]
  | trackTags => [("track_id", tracks), ("tag_id", tags)]
  | subtitles | remoteSubtitles => [("track_id", tracks)]

theorem mem_all (t : Table) : t ∈ all := by
  cases t <;> simp [all]

theorem ofName?_name (t : Table) : ofName? t.name = some t := by
  cases t <;> decide

end Table

end AudioLibrary
