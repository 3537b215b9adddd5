import AudioLibrary.Catalog.Album
import AudioLibrary.Catalog.Tag
import AudioLibrary.Catalog.Track
import AudioLibrary.Query.Adapter
import AudioLibrary.Query.Compile
import AudioLibrary.Query.Listing

/-!
# The library service

The calls that a host makes on the library.  Each compiles what it is asked for, sends it to the
adapter and reads the rows.  A paged call first asks for the number of rows and then for the window;
it answers with every row of the window or with the first error.

Log events show the shapes of statements and the numbers of rows, never a value.
-/

namespace AudioLibrary

open AudioLibrary.Relational

/-! ## Events -/

namespace LibraryQuery

/-- What is logged when a filter has become a query. -/
def compiledEvent (shape : Shape) (spec : FilterSpec) : LogEvent :=
  { level := .trace
    target := "core_library::compiler"
    message := "Compiled library query"
    fields :=
      [("shape", shape.describe), ("predicates", toString (spec.predicates shape).length),
        ("args", toString (compile shape spec).statement.arguments.length)] }

/-- Compiles a filter and logs that it did. -/
def compiling {σ : Type} (shape : Shape) (spec : FilterSpec) :
    Action LibraryError σ LibraryQuery := do
  Action.emit (compiledEvent shape spec)
  return compile shape spec

end LibraryQuery

structure LibraryService (σ : Type) where
  adapter : Adapter σ
  /-- Rows per page of streams, and of pages unless a call says otherwise. -/
  pageSize : UInt32 := PageRequest.defaultSize

namespace LibraryService

variable {σ α : Type}

def target : String := "core_library::query"

/-- What is logged when a page has been read. -/
def fetchedEvent (shape : Shape) (total : UInt64) (returned : Nat) : LogEvent :=
  { level := .debug, target, message := "Fetched library page"
    fields :=
      [("shape", shape.describe), ("total", toString total.toNat),
        ("returned", toString returned)] }

/-- What is logged when voice actors have been listed. -/
def listedActorsEvent (fields actors : Nat) : LogEvent :=
  { level := .debug, target, message := "Listed voice actors"
    fields := [("fields", toString fields), ("actors", toString actors)] }

/-! ## Reading rows -/

/-- The request for the first page. -/
def firstPage (s : LibraryService σ) : PageRequest := .first s.pageSize

/-- Pages must hold a row. -/
def checkPageSize (pageSize : UInt32) : Except LibraryError Unit :=
  if pageSize = 0 then .error (.invalidInput "page_size" "page size must be at least 1") else .ok ()

/-- The number of rows in a row that holds one; a negative one counts as none. -/
def readCount (row : Row) : Except LibraryError UInt64 :=
  (row.requireInteger Statement.countColumn).map fun i => .ofNat i.toInt.toNat

/-- The number of rows of a query. -/
def count (s : LibraryService σ) (q : LibraryQuery) : Action LibraryError σ UInt64 := do
  let row ← Answer.toAction (s.adapter.queryOne q.count.statement)
  readCount row

/-- The rows of a statement, all of which must be readable. -/
def fetchAll (s : LibraryService σ) (statement : Statement) (read : Row → Except LibraryError α) :
    Action LibraryError σ (List α) := do
  let rows ← Answer.toAction (s.adapter.query statement)
  (rows.mapM read : Except LibraryError (List α))

/-- The number of rows of a query and the rows of one window. -/
def fetchWindow (s : LibraryService σ) (q : LibraryQuery) (request : PageRequest)
    (read : Row → Except LibraryError α) : Action LibraryError σ (UInt64 × List α) := do
  -- nothing is sent for a page that could hold no row
  checkPageSize request.pageSize
  let total ← s.count q
  let items ← s.fetchAll (q.page request).statement read
  Action.emit (fetchedEvent q.shape total items.length)
  return (total, items)

/-- The page that a window makes. -/
def pageOf (request : PageRequest) (window : UInt64 × List α) : Page α :=
  .ofRequest window.2 window.1 request

/-! ## Filtered calls -/

/-- One page of the albums that match. -/
def queryAlbums (s : LibraryService σ) (spec : FilterSpec) (request : PageRequest) :
    Action LibraryError σ (Page Album) :=
  Action.inSpan "query_albums" do
    let q ← LibraryQuery.compiling .albums spec
    pageOf request <$> s.fetchWindow q request Album.ofRow

/-- One window of the tracks that match. -/
def trackWindow (s : LibraryService σ) (spec : FilterSpec) (request : PageRequest) :
    Action LibraryError σ (UInt64 × List TrackRow) :=
  Action.inSpan "query_tracks" do
    let q ← LibraryQuery.compiling .tracks spec
    s.fetchWindow q request TrackRow.ofRow

/-- One page of the tracks that match. -/
def queryTracks (s : LibraryService σ) (spec : FilterSpec) (request : PageRequest) :
    Action LibraryError σ (Page TrackRow) :=
  pageOf request <$> s.trackWindow spec request

/-- One page of the albums that own a matching track. -/
def queryHeaders (s : LibraryService σ) (spec : FilterSpec) (request : PageRequest) :
    Action LibraryError σ (Page AlbumHeader) :=
  Action.inSpan "query_track_album_headers" do
    let q ← LibraryQuery.compiling .headers spec
    pageOf request <$> s.fetchWindow q request AlbumHeader.ofRow

/-- The tracks of an album that match; the album must exist. -/
def albumTracks (s : LibraryService σ) (spec : FilterSpec) (id : AlbumId) :
    Action LibraryError σ (List TrackRow) :=
  Action.inSpan "album_tracks" do
    let found ← Answer.toAction (s.adapter.queryOptional (Listing.albumExists id))
    if found.isNone then
      throw (.notFound "Album" id.display)
    let q ← LibraryQuery.compiling (.albumTracks id) spec
    s.fetchAll q.statement TrackRow.ofRow

/-! ## Listings -/

/-- At most `limit` played albums, the last played first. -/
def recentlyPlayed (s : LibraryService σ) (limit : UInt32) : Action LibraryError σ (List Album) :=
  if limit = 0 then pure [] else s.fetchAll (Listing.recentlyPlayed limit) Album.ofRow

/-- The names of circles. -/
def circles (s : LibraryService σ) : Action LibraryError σ (List String) :=
  s.fetchAll Listing.circles fun row => row.requireText "circle"

/-- The names of voice actors. -/
def voiceActors (s : LibraryService σ) : Action LibraryError σ (List String) := do
  let fields ← s.fetchAll Listing.credits fun row => row.requireText "cv"
  let actors := Listing.actorNames fields
  Action.emit (listedActorsEvent fields.length actors.length)
  return actors

/-- The tags and how many albums carry them. -/
def tags (s : LibraryService σ) : Action LibraryError σ (List TagWithCount) :=
  s.fetchAll Listing.tagsWithCounts TagWithCount.ofRow

end LibraryService

end AudioLibrary
