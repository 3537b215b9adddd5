import AudioLibrary.Catalog.Id
import AudioLibrary.Credits
import AudioLibrary.Query.Compile
import AudioLibrary.Text.Casing

/-!
# Listings

Statements that need no filter: whether an album exists, the albums played last, and what circles,
credits and tags there are.  `actorNames` makes the list of voice actors from the credit fields.
-/

namespace AudioLibrary.Listing

open AudioLibrary.Relational

/-! ## Statements -/

/-- The number of an album, if it exists. -/
def albumExists (id : AlbumId) : Statement :=
  .select
    { items := [.one (.expr (.column none "id")) none]
      source := .ofTable "albums"
      conditions := [.equals (.column none "id") (.argument (.integer id.value))] }

/-- Played albums, the last played first. -/
def recentlyPlayed (limit : UInt32) : Statement :=
  .firstRows
    (.select
      { items := [.all "a"]
        source :=
          { relation := .table ⟨"albums", some "a"⟩
            joins := [{ table := ⟨"album_play_stats", some "ps"⟩
                        on := .equals (.col "ps" "album_id") (.col "a" "id") }] }
        orderBy := [Shape.descending "ps" "last_played_at", Shape.descending "a" "id"] })
    limit

/-- The different texts of a column of albums, empty ones left out, letter case aside.  Those that
agree but for letter case come as they are read. -/
def distinctTexts (column : String) (readBy : Option Expr) : Statement :=
  .select
    { distinct := true
      items := [.one (.expr (.column none column)) none]
      source := .ofTable "albums"
      readBy
      conditions := [.differs (.column none column) (.literal "")]
      orderBy := [{ term := .expr (.column none column), collation := .noCase }] }

/-- Circles, read from the index on them. -/
def circles : Statement := distinctTexts "circle" (some (.column none "circle"))

def credits : Statement := distinctTexts "cv" none

/-- Tags with the number of albums that carry them, most used first. -/
def tagsWithCounts : Statement :=
  .select
    { items :=
        [Shape.named "t" "id" "id", Shape.named "t" "name" "name",
          Shape.named "t" "name_normalized" "name_normalized",
          .one
            (.countDistinct
              { item := .col "at" "album_id"
                source := .ofTable "album_tag" (some "at")
                conditions := [.equals (.col "at" "tag_id") (.col "t" "id")] })
            (some "album_count")]
      source := .ofTable "tags" (some "t")
      orderBy :=
        [{ term := .expr (.column none "album_count"), direction := some .descending },
          { term := .expr (.col "t" "name_normalized"), direction := some .ascending }] }

/-! ## Voice actors -/

/-- The names in credit fields; of those with one key the first. -/
def namesByKey (fields : List String) : List (List Char) :=
  ((fields.flatMap fun field => Credits.displayNames field.toList).filter
    fun name => Credits.key name ≠ []).eraseDupsBy fun a b => Credits.key a == Credits.key b

/-- The order of listed names: letter case aside. -/
def nameLE (a b : String) : Bool :=
  compare (String.ofList (Text.lowercase a.toList)) (String.ofList (Text.lowercase b.toList)) != .gt

/-- The names in credit fields in alphabetical order; names that agree stay as they come. -/
def actorNames (fields : List String) : List String :=
  ((namesByKey fields).map String.ofList).mergeSort nameLE

end AudioLibrary.Listing
