import AudioLibrary.Catalog.Id
import AudioLibrary.Catalog.Reading

/-!
# Albums

An album with all its attributes, and how it is read from a row or from a document.
-/

namespace AudioLibrary

structure Album where
  id : AlbumId
  title : String
  path : String
  localPath : Option String
  downloadPath : Option String
  circle : String
  /-- The credits as typed. -/
  cv : String
  /-- The names of the tags as one text. -/
  tags : String
  coverUrl : String
  coverPath : String
  coverThumbPath : String
  workId : String
  rjCode : String
  ratingValue : Option Number.Double
  ratingCount : Int64
  releaseDate : String
  dlCount : Int64
  priceJpy : Int64
  /-- Whether the external catalogue lists it. -/
  hasAsmrOne : Bool
  description : String
deriving DecidableEq, Repr

namespace Album

/-! ## Derived attributes -/

/-- The thumbnail, if there is one, and else the cover. -/
def displayCoverPath (a : Album) : String :=
  if a.coverThumbPath.isEmpty then a.coverPath else a.coverThumbPath

/-- Whether a path is there; an empty one is not. -/
def isPresent (path : Option String) : Bool := path.any fun p => !p.isEmpty

def hasLocalCopy (a : Album) : Bool := isPresent a.localPath

def hasDownloadCopy (a : Album) : Bool := isPresent a.downloadPath

/-! ## Reading -/

/-- The album in a row of the album table. -/
def ofRow (row : Row) : Except LibraryError Album := do
  return {
    id := ⟨← row.requireInteger "id"⟩
    title := ← row.requireText "title"
    path := ← row.requireText "path"
    localPath := ← row.optionalText "local_path"
    downloadPath := ← row.optionalText "download_path"
    circle := row.textOrEmpty "circle"
    cv := row.textOrEmpty "cv"
    tags := row.textOrEmpty "tags"
    coverUrl := row.textOrEmpty "cover_url"
    coverPath := row.textOrEmpty "cover_path"
    coverThumbPath := row.textOrEmpty "cover_thumb_path"
    workId := row.textOrEmpty "work_id"
    rjCode := row.textOrEmpty "rj_code"
    ratingValue := (row.value "rating_value").real?
    ratingCount := row.integerOrZero "rating_count"
    releaseDate := row.textOrEmpty "release_date"
    dlCount := row.integerOrZero "dl_count"
    priceJpy := row.integerOrZero "price_jpy"
    hasAsmrOne := row.integerOrZero "has_asmr_one" != 0
    description := row.textOrEmpty "description"
  }

/-- The names of the members of an album's document. -/
def memberNames : List String :=
  ["id", "title", "path", "local_path", "download_path", "circle", "cv", "tags", "cover_url",
    "cover_path", "cover_thumb_path", "work_id", "rj_code", "rating_value", "rating_count",
    "release_date", "dl_count", "price_jpy", "has_asmr_one", "description"]

/-- The album that a document spells.  Paths and rating may be missing or null. -/
def ofJson? (j : Json) : Option Album := do
  let fields ← j.allFields? memberNames
  let text := fun name => Json.required? fields name Json.string?
  let path := fun name => Json.defaulted? fields name none (Json.option? Json.string?)
  let integer := fun name => Json.required? fields name Json.int64?
  return {
    id := ⟨← integer "id"⟩
    title := ← text "title"
    path := ← text "path"
    localPath := ← path "local_path"
    downloadPath := ← path "download_path"
    circle := ← text "circle"
    cv := ← text "cv"
    tags := ← text "tags"
    coverUrl := ← text "cover_url"
    coverPath := ← text "cover_path"
    coverThumbPath := ← text "cover_thumb_path"
    workId := ← text "work_id"
    rjCode := ← text "rj_code"
    ratingValue := ← Json.defaulted? fields "rating_value" none (Json.option? Json.double?)
    ratingCount := ← integer "rating_count"
    releaseDate := ← text "release_date"
    dlCount := ← integer "dl_count"
    priceJpy := ← integer "price_jpy"
    hasAsmrOne := ← Json.required? fields "has_asmr_one" Json.bool?
    description := ← text "description"
  }

def parse? (text : String) : Option Album := (Json.parse? text).bind ofJson?

end Album

end AudioLibrary
