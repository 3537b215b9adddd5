import AudioLibrary.Catalog.Id
import AudioLibrary.Catalog.Reading

/-!
# Rows of track lists

A `TrackRow` is a track with what a list shows of its album, an `AlbumHeader` the album alone.
-/

namespace AudioLibrary

structure AlbumHeader where
  albumId : AlbumId
  albumTitle : String
  circle : String
  cv : String
  coverUrl : String
  /-- The thumbnail, if there is one, and else the cover. -/
  coverPath : String
  workId : String
  rjCode : String
deriving DecidableEq, Repr

structure TrackRow where
  trackId : TrackId
  albumId : AlbumId
  trackTitle : String
  trackPath : String
  /-- In seconds. -/
  duration : Number.Double
  /-- Whether there are subtitles of its own or elsewhere. -/
  hasSubtitles : Bool
  trackGroup : String
  albumTitle : String
  circle : String
  cv : String
  coverUrl : String
  /-- The thumbnail, if there is one, and else the cover. -/
  coverPath : String
  workId : String
  rjCode : String
deriving DecidableEq, Repr

namespace AlbumHeader

def ofRow (row : Row) : Except LibraryError AlbumHeader := do
  return {
    albumId := ⟨← row.requireInteger "album_id"⟩
    albumTitle := ← row.requireText "album_title"
    circle := row.textOrEmpty "circle"
    cv := row.textOrEmpty "cv"
    coverUrl := row.textOrEmpty "cover_url"
    coverPath := row.textOrEmpty "cover_path"
    workId := row.textOrEmpty "work_id"
    rjCode := row.textOrEmpty "rj_code"
  }

end AlbumHeader

namespace TrackRow

def ofRow (row : Row) : Except LibraryError TrackRow := do
  return {
    trackId := ⟨← row.requireInteger "track_id"⟩
    albumId := ⟨← row.requireInteger "album_id"⟩
    trackTitle := ← row.requireText "track_title"
    trackPath := ← row.requireText "track_path"
    duration := (row.value "duration").real?.getD .zero
    hasSubtitles := row.integerOrZero "has_subtitles" != 0
    trackGroup := row.textOrEmpty "track_group"
    albumTitle := ← row.requireText "album_title"
    circle := row.textOrEmpty "circle"
    cv := row.textOrEmpty "cv"
    coverUrl := row.textOrEmpty "cover_url"
    coverPath := row.textOrEmpty "cover_path"
    workId := row.textOrEmpty "work_id"
    rjCode := row.textOrEmpty "rj_code"
  }

end TrackRow

end AudioLibrary
