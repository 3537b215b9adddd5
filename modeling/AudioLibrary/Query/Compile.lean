import AudioLibrary.Page
import AudioLibrary.Query.Predicate

/-!
# Library queries

A filter becomes one statement for each `Shape` of result: albums, tracks across the library, the
tracks of one album, or the headers of the albums that own a matching track.

The predicates stand in a fixed order: album, text, included tags, excluded tags, voice actors,
circles, source.  Whatever a user typed is an argument and never text of the statement.  Each order
ends in row numbers, so that no two rows are tied.
-/

namespace AudioLibrary

open AudioLibrary.Relational

/-- What the rows of a query are. -/
inductive Shape where
  | albums
  | tracks
  | albumTracks (id : AlbumId)
  | headers
deriving DecidableEq, Repr

namespace Shape

/-- The name that log entries show. -/
def describe : Shape → String
  | albums => "AlbumRows"
  | tracks => "TrackRows"
  | albumTracks id => "AlbumTracks(" ++ id.describe ++ ")"
  | headers => "TrackAlbumHeaders"

/-- The album that the rows are restricted to. -/
def album? : Shape → Option AlbumId
  | albumTracks id => some id
  | _ => none

/-- Whose tags the filter looks at. -/
def tagScope : Shape → TagScope
  | albums => .album
  | _ => .track

/-- The columns of an album that are searched. -/
def albumTextColumns : List Expr := ["title", "circle", "cv", "rj_code", "work_id"].map (.col "a")

/-- The columns that are searched. -/
def textColumns : Shape → List Expr
  | albums => albumTextColumns
  | _ => albumTextColumns ++ [.col "t" "title"]

/-! ## Columns -/

/-- The cover of an album: the thumbnail, if there is one. -/
def coverPath : Item :=
  .one
    (.choose
      (.both (.isNotNull (.col "a" "cover_thumb_path"))
        (.differs (.col "a" "cover_thumb_path") (.literal "")))
      (.col "a" "cover_thumb_path") (.col "a" "cover_path"))
    (some "cover_path")

/-- A column of a source under a name. -/
def named (source column as : String) : Item := .one (.expr (.col source column)) (some as)

/-- The codes by which an album is known elsewhere. -/
def albumCodes : List Item := [named "a" "work_id" "work_id", named "a" "rj_code" "rj_code"]

/-- Whether a table has a row for the track. -/
def trackHas (table as : String) : Test :=
  .nonempty
    { item := .number 1
      source := .ofTable table (some as)
      conditions := [.equals (.col as "track_id") (.col "t" "id")] }

/-- Whether the track has subtitles of either kind. -/
def hasSubtitles : Item :=
  .one (.truth (.anyOf (trackHas "subtitles" "s") [trackHas "remote_subtitle_sources" "rs"]))
    (some "has_subtitles")

/-- What a header shows of its album. -/
def albumColumns : List Item :=
  [named "a" "title" "album_title", named "a" "circle" "circle", named "a" "cv" "cv",
    named "a" "cover_url" "cover_url"]

def items : Shape → List Item
  | albums => [.all "a"]
  | headers => named "a" "id" "album_id" :: albumColumns ++ coverPath :: albumCodes
  | _ =>
      [named "t" "id" "track_id", named "t" "album_id" "album_id", named "t" "title" "track_title",
        named "t" "path" "track_path", named "t" "duration" "duration", hasSubtitles,
        named "t" "group_label" "track_group"] ++ albumColumns ++ coverPath :: albumCodes

/-! ## Sources -/

/-- Each track with its album. -/
def trackSource : Source Union :=
  { relation := .table ⟨"tracks", some "t"⟩
    joins := [{ table := ⟨"albums", some "a"⟩
                on := .equals (.col "a" "id") (.col "t" "album_id") }] }

def baseSource : Shape → Source Union
  | albums => .ofTable "albums" (some "a")
  | _ => trackSource

/-- The play statistics of an album, if it has any. -/
def playStats : Join :=
  { outer := true
    table := ⟨"album_play_stats", some "ps"⟩
    on := .equals (.col "ps" "album_id") (.col "a" "id") }

/-- The source of the rows; play statistics only where the order needs them. -/
def source (shape : Shape) (sort : SortOrder) : Source Union :=
  let base := shape.baseSource
  if sort = .lastPlayedDesc then { base with joins := base.joins ++ [playStats] } else base

/-! ## Order -/

/-- A text column, letter case aside. -/
def byText (source column : String) : OrderKey :=
  { term := .expr (.col source column), collation := .noCase, direction := some .ascending }

/-- A column, greatest first. -/
def descending (source column : String) : OrderKey :=
  { term := .expr (.col source column), direction := some .descending }

/-- The order of albums; the newest of those that agree comes first. -/
def albumOrder (sort : SortOrder) : List OrderKey :=
  (match sort with
    | .addedDesc => []
    | .titleAsc => [byText "a" "title"]
    | .rjAsc => [byText "a" "rj_code"]
    | .circleAsc => [byText "a" "circle"]
    | .cvAsc => [byText "a" "cv"]
    | .lastPlayedDesc =>
        [{ term := .choose (.isNull (.col "ps" "last_played_at")) (.number 1) (.number 0)
           direction := some .ascending },
         descending "ps" "last_played_at"]) ++ [descending "a" "id"]

/-- The order of the tracks of an album: by their files. -/
def fileOrder : List OrderKey :=
  [byText "t" "path", { term := .expr (.col "t" "id"), direction := some .ascending }]

def order (shape : Shape) (sort : SortOrder) : List OrderKey :=
  match shape with
  | albums | headers => albumOrder sort
  | _ => albumOrder sort ++ fileOrder

/-- Headers are one for each album. -/
def groupBy : Shape → Option Expr
  | headers => some (.col "a" "id")
  | _ => none

end Shape

/-! ## Predicates of a filter -/

/-- The predicate for a list that is not empty. -/
def unlessEmpty {α : Type} (predicate : List α → Predicate) : List α → List Predicate
  | [] => []
  | items => [predicate items]

/-- The predicates of a filter in their order. -/
def FilterSpec.predicates (spec : FilterSpec) (shape : Shape) : List Predicate :=
  (shape.album?.map .ofAlbum).toList ++
    (spec.searchText.map fun text => .textMatch text shape.textColumns shape.tagScope).toList ++
    unlessEmpty (.allTags shape.tagScope) spec.includeTags.toList ++
    unlessEmpty (.noTag shape.tagScope) spec.excludeTags.toList ++
    (match spec.actorKeys.toList with
      | [] => []
      | key :: others => [.anyActor key others]) ++
    unlessEmpty .anyCircle spec.circles.toList ++
    (spec.effectiveSource.map .fromSource).toList

/-! ## Queries -/

/-- A statement and the shape of its rows. -/
structure LibraryQuery where
  statement : Statement
  shape : Shape

namespace LibraryQuery

/-- The query for a filter. -/
def compile (shape : Shape) (spec : FilterSpec) : LibraryQuery :=
  { shape
    statement := .select
      { items := shape.items
        source := shape.source spec.sort
        conditions := (spec.predicates shape).map Predicate.condition
        groupBy := shape.groupBy
        orderBy := shape.order spec.sort } }

/-- The number of rows of a query. -/
def count (q : LibraryQuery) : LibraryQuery := { q with statement := .count q.statement }

/-- A window of the rows of a query. -/
def window (q : LibraryQuery) (limit offset : UInt32) : LibraryQuery :=
  { q with statement := .window q.statement limit offset }

/-- The window that a page request names. -/
def page (q : LibraryQuery) (request : PageRequest) : LibraryQuery :=
  q.window request.limit request.offset

end LibraryQuery

end AudioLibrary
