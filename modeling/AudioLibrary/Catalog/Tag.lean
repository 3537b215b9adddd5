import AudioLibrary.Catalog.Id
import AudioLibrary.Catalog.Reading

/-!
# Tags in listings
-/

namespace AudioLibrary

/-- A tag and the number of albums that carry it. -/
structure TagWithCount where
  id : TagId
  name : String
  nameNormalized : String
  albumCount : Int64
deriving DecidableEq, Repr

namespace TagWithCount

def ofRow (row : Row) : Except LibraryError TagWithCount := do
  return {
    id := ⟨← row.requireInteger "id"⟩
    name := ← row.requireText "name"
    nameNormalized := ← row.requireText "name_normalized"
    albumCount := ← row.requireInteger "album_count"
  }

end TagWithCount

end AudioLibrary
