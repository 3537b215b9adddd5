import AudioLibrary.Proofs.Query.Readable

/-!
# Records hold what is stored

Where columns hold values of their kinds, `Store.Typed`, reading loses nothing: what a record keeps
of a column, `Column.kept`, is the value that is stored there.

* `Album.IsOf`, `AlbumHeader.IsOf`, `TrackRow.IsOf`: a record holds what the stored rows hold,
  column by column.
* `records_as_stored`: every row of every query can be read, and the record is that of its rows.
-/

namespace AudioLibrary

open AudioLibrary.Relational

/-! ## Columns of their kinds -/

/-- Whether a value is of the kind that a column prefers. -/
def Affinity.prefers : Affinity → Value → Bool
  | text, .text _ | integer, .integer _ | real, .real _ => true
  | _, _ => false

namespace Column

/-- Whether a column may hold a value: one of its kind, or nothing where that is allowed. -/
def Admits (c : Column) (v : Value) : Prop :=
  c.affinity.prefers v = true ∨ (c.required = false ∧ v = .null)

instance (c : Column) (v : Value) : Decidable (c.Admits v) := by
  unfold Admits
  infer_instance

/-- What a record keeps of a column: a value of its kind, whatever is stored. -/
def kept (c : Column) (row : Row) : Value :=
  match c.affinity, c.required with
  | .text, true => .text (row.textOrEmpty c.name)
  | .text, false => .ofOption .text (row.value c.name).text?
  | .integer, true => .integer (row.integerOrZero c.name)
  | .integer, false => .ofOption .integer (row.value c.name).integer?
  | .real, true => .real ((row.value c.name).real?.getD .zero)
  | .real, false => .ofOption .real (row.value c.name).real?

/-- Nothing is lost of a value that the column may hold. -/
theorem kept_eq {c : Column} {row : Row} (h : c.Admits (row.value c.name)) :
    c.kept row = row.value c.name := by
  unfold kept Row.textOrEmpty Row.integerOrZero
  rcases h with hkind | ⟨hoptional, hnull⟩
  · generalize row.value c.name = v at hkind ⊢
    cases hc : c.affinity <;> cases v <;> rw [hc] at hkind <;>
      first | exact absurd hkind Bool.false_ne_true | (cases c.required <;> rfl)
  · rw [hnull, hoptional]
    cases c.affinity <;> rfl

end Column

namespace Store

/-- Every column of every row holds a value of its kind, or nothing where that is allowed. -/
def Typed (s : Store) : Prop :=
  ∀ t, ∀ row ∈ s.rows t, ∀ c ∈ t.columns, c.Admits (row.value c.name)

instance (s : Store) : Decidable s.Typed := by
  unfold Typed
  infer_instance

end Store

namespace Row

/-- Whether a row holds the values of other columns. -/
def Holds (row cells : Row) : Prop := ∀ cell ∈ cells, row.value cell.1 = cell.2

end Row

namespace Store

variable {s : Store} {t : Table} {row : Row}

/-- A text column holds texts above all. -/
theorem Typed.textual (ht : s.Typed) : s.Textual := by
  intro t row hrow c hc haffinity
  refine (ht t row hrow c hc).imp_left fun hkind => ?_
  rw [haffinity] at hkind
  cases hvalue : row.value c.name with
  | text text => exact ⟨text, rfl⟩
  | null | integer | real | blob =>
      rw [hvalue] at hkind
      exact absurd hkind Bool.false_ne_true

/-- What is kept of columns is what they hold. -/
theorem Typed.holds_kept (ht : s.Typed) (hrow : row ∈ s.rows t) (p : Column → Bool) :
    row.Holds ((t.columns.filter p).map fun c => (c.name, c.kept row)) := by
  intro cell hcell
  obtain ⟨c, hc, rfl⟩ := List.mem_map.1 hcell
  exact (Column.kept_eq (ht t row hrow c (List.mem_filter.1 hc).1)).symm

end Store

/-! ## Albums -/

namespace Album

/-- The columns of the album table with what an album holds of them, but for the flag. -/
def cells (a : Album) : Row :=
  [("id", .integer a.id.value), ("title", .text a.title), ("path", .text a.path),
    ("local_path", .ofOption .text a.localPath), ("download_path", .ofOption .text a.downloadPath),
    ("circle", .text a.circle), ("cv", .text a.cv), ("tags", .text a.tags),
    ("cover_url", .text a.coverUrl), ("cover_path", .text a.coverPath),
    ("cover_thumb_path", .text a.coverThumbPath), ("work_id", .text a.workId),
    ("rj_code", .text a.rjCode), ("rating_value", .ofOption .real a.ratingValue),
    ("rating_count", .integer a.ratingCount), ("release_date", .text a.releaseDate),
    ("dl_count", .integer a.dlCount), ("price_jpy", .integer a.priceJpy),
    ("description", .text a.description)]

/-- An album holds what a row of the album table holds. -/
structure IsOf (a : Album) (row : Row) : Prop where
  cells : row.Holds a.cells
  flag : ∃ n, row.value "has_asmr_one" = .integer n ∧ (a.hasAsmrOne = true ↔ n ≠ 0)

/-- No column of the album table is left out but the flag. -/
theorem cells_reading (row : Row) :
    (reading row).cells =
      ((Table.columns .albums).filter fun c => c.name != "has_asmr_one").map fun c =>
        (c.name, c.kept row) :=
  rfl

variable {s : Store} {row : Row}

theorem isOf_reading (ht : s.Typed) (hrow : row ∈ s.rows .albums) : (reading row).IsOf row := by
  refine ⟨?_, row.integerOrZero "has_asmr_one", ?_, ?_⟩
  · rw [cells_reading]
    exact ht.holds_kept hrow _
  · exact ht.holds_kept hrow (fun c => c.name == "has_asmr_one") _ (List.mem_singleton_self _)
  · exact bne_iff_ne

end Album

/-! ## Headers -/

namespace AlbumHeader

/-- The columns of the album table that a header shows as they are. -/
def cells (h : AlbumHeader) : Row :=
  [("id", .integer h.albumId.value), ("title", .text h.albumTitle), ("circle", .text h.circle),
    ("cv", .text h.cv), ("cover_url", .text h.coverUrl), ("work_id", .text h.workId),
    ("rj_code", .text h.rjCode)]

/-- A header holds what a row of the album table holds, and the cover that is to be shown. -/
structure IsOf (h : AlbumHeader) (album : Row) : Prop where
  cells : album.Holds h.cells
  cover : coverValue album = .text h.coverPath

theorem cells_reading (album : Row) :
    (reading (headerCells album)).cells =
      ((Table.columns .albums).filter fun c =>
        ["id", "title", "circle", "cv", "cover_url", "work_id", "rj_code"].contains c.name).map
          fun c => (c.name, c.kept album) :=
  rfl

variable {s : Store} {album : Row}

/-- The cover is a text, since both paths are. -/
theorem coverValue_eq (ht : s.Typed) (halbum : album ∈ s.rows .albums) :
    coverValue album = .text (reading (headerCells album)).coverPath := by
  have hholds := ht.holds_kept halbum fun c =>
    ["cover_path", "cover_thumb_path"].contains c.name
  have hfull : album.value "cover_path" = .text (album.textOrEmpty "cover_path") :=
    hholds _ (.head _)
  have hthumb : album.value "cover_thumb_path" = .text (album.textOrEmpty "cover_thumb_path") :=
    hholds _ (.tail _ (.head _))
  have htext : ∃ text, coverValue album = .text text := by
    unfold coverValue
    split
    · exact ⟨_, hthumb⟩
    · exact ⟨_, hfull⟩
  obtain ⟨text, htext⟩ := htext
  show coverValue album = .text ((coverValue album).text?.getD "")
  rw [htext]
  rfl

theorem isOf_reading (ht : s.Typed) (halbum : album ∈ s.rows .albums) :
    (reading (headerCells album)).IsOf album := by
  refine ⟨?_, coverValue_eq ht halbum⟩
  rw [cells_reading]
  exact ht.holds_kept halbum _

end AlbumHeader

/-! ## Tracks -/

namespace TrackRow

/-- The columns of the track table with what a track in a list holds of them. -/
def cells (t : TrackRow) : Row :=
  [("id", .integer t.trackId.value), ("album_id", .integer t.albumId.value),
    ("title", .text t.trackTitle), ("path", .text t.trackPath), ("duration", .real t.duration),
    ("group_label", .text t.trackGroup)]

/-- What a track in a list shows of its album. -/
def header (t : TrackRow) : AlbumHeader where
  albumId := t.albumId
  albumTitle := t.albumTitle
  circle := t.circle
  cv := t.cv
  coverUrl := t.coverUrl
  coverPath := t.coverPath
  workId := t.workId
  rjCode := t.rjCode

/-- A track in a list holds what the rows of a track and of its album hold, and whether there are
subtitles of the track. -/
structure IsOf (t : TrackRow) (s : Store) (track album : Row) : Prop where
  cells : track.Holds t.cells
  header : t.header.IsOf album
  subtitles : t.hasSubtitles = true ↔
    ∃ table ∈ [Table.subtitles, .remoteSubtitles], ∃ row ∈ s.rows table,
      row.value "track_id" = .integer t.trackId.value

theorem cells_reading (s : Store) (track : Row) :
    (reading (trackCells s track)).cells =
      ((Table.columns .tracks).filter fun _ => true).map fun c => (c.name, c.kept track) :=
  rfl

variable {s : Store} {track : Row}

theorem header_reading (hs : s.Sound) (htrack : track ∈ s.rows .tracks) :
    (reading (trackCells s track)).header =
      AlbumHeader.reading (headerCells (s.ownerOf track)) := by
  have hid : Row.integerOrZero (trackCells s track) "album_id" =
      Row.integerOrZero (headerCells (s.ownerOf track)) "album_id" := by
    show (track.value "album_id").integer?.getD 0 =
      ((s.ownerOf track).value "id").integer?.getD 0
    rw [hs.value_id_ownerOf htrack]
  unfold header reading AlbumHeader.reading
  rw [hid]
  rfl

theorem isOf_reading (hs : s.Sound) (ht : s.Typed) (htrack : track ∈ s.rows .tracks) :
    (reading (trackCells s track)).IsOf s track (s.ownerOf track) := by
  have hcells : track.Holds (reading (trackCells s track)).cells := by
    rw [cells_reading]
    exact ht.holds_kept htrack _
  refine ⟨hcells, ?_, ?_⟩
  · rw [header_reading hs htrack]
    exact AlbumHeader.isOf_reading ht (hs.ownerOf_mem htrack)
  · rw [← Store.subtitled_iff hs (hcells _ (.head _))]
    show (if s.subtitled track then (1 : Int64) else 0) != 0 ↔ _
    cases s.subtitled track <;> decide

/-- The tracks of an album are listed as all tracks are. -/
theorem exists_of_mem_rows (hs : s.Sound) (ht : s.Typed) {shape : Shape} {spec : FilterSpec}
    (htable : shape.table = .tracks) (hpresent : shape.present s spec = trackCells s) {row : Row}
    (hrow : row ∈ (LibraryQuery.compile shape spec).statement.rows s.tables) :
    ∃ t, ofRow row = .ok t ∧ ∃ track ∈ s.rows .tracks, ∃ album ∈ s.rows .albums,
      t.IsOf s track album := by
  obtain ⟨track, htrack, rfl⟩ := Shape.exists_present_of_mem_rows hs hrow
  rw [htable] at htrack
  rw [hpresent]
  have hread := readsBy.eq_ok_iff.2 ⟨lacking?_eq_none hs ht.textual htrack, rfl⟩
  exact ⟨_, hread, track, htrack, s.ownerOf track, hs.ownerOf_mem htrack,
    isOf_reading hs ht htrack⟩

end TrackRow

/-! ## The rows of every query -/

/-- **Every row can be read, and the record holds what is stored.**  In a library whose columns hold
values of their kinds, no row of any query fails to be read.  A row of a query for albums is a
stored row, and its album holds what the row holds; a track and a header hold what their own stored
rows hold, and a track has subtitles if a row of either table of subtitles is about it. -/
theorem records_as_stored {s : Store} (hs : s.Sound) (ht : s.Typed) (spec : FilterSpec) :
    (∀ row ∈ (LibraryQuery.compile .albums spec).statement.rows s.tables,
      row ∈ s.rows .albums ∧ ∃ a, Album.ofRow row = .ok a ∧ a.IsOf row) ∧
    (∀ row ∈ (LibraryQuery.compile .tracks spec).statement.rows s.tables,
      ∃ t, TrackRow.ofRow row = .ok t ∧ ∃ track ∈ s.rows .tracks, ∃ album ∈ s.rows .albums,
        t.IsOf s track album) ∧
    (∀ id, ∀ row ∈ (LibraryQuery.compile (.albumTracks id) spec).statement.rows s.tables,
      ∃ t, TrackRow.ofRow row = .ok t ∧ ∃ track ∈ s.rows .tracks, ∃ album ∈ s.rows .albums,
        t.IsOf s track album) ∧
    (∀ row ∈ (LibraryQuery.compile .headers spec).statement.rows s.tables,
      ∃ h, AlbumHeader.ofRow row = .ok h ∧ ∃ album ∈ s.rows .albums, h.IsOf album) := by
  have htracks : Shape.tracks.present s spec = trackCells s :=
    funext (Shape.present_tracks s spec)
  refine ⟨fun row hrow => ?_, fun row hrow => ?_, fun id row hrow => ?_, fun row hrow => ?_⟩
  · obtain ⟨album, halbum, rfl⟩ := Shape.exists_present_of_mem_rows hs hrow
    rw [Shape.present_albums]
    have hread := Album.readsBy.eq_ok_iff.2 ⟨Album.lacking?_eq_none hs ht.textual halbum, rfl⟩
    exact ⟨halbum, _, hread, Album.isOf_reading ht halbum⟩
  · exact TrackRow.exists_of_mem_rows hs ht rfl htracks hrow
  · have hlisted : (Shape.albumTracks id).present s spec = trackCells s := htracks
    exact TrackRow.exists_of_mem_rows hs ht rfl hlisted hrow
  · obtain ⟨track, htrack, rfl⟩ := Shape.exists_present_of_mem_rows hs hrow
    rw [Shape.present_headers]
    have halbum := hs.ownerOf_mem htrack
    have hread := AlbumHeader.readsBy.eq_ok_iff.2
      ⟨AlbumHeader.lacking?_eq_none hs ht.textual halbum, rfl⟩
    exact ⟨_, hread, _, halbum, AlbumHeader.isOf_reading ht halbum⟩

/-- A track whose only subtitles are elsewhere has subtitles. -/
theorem records_as_stored_subtitled :
    let s := (Store.sample "one").setRows .remoteSubtitles
      [Store.newRow .remoteSubtitles 1 [("track_id", .integer 1), ("url", .text "one.srt")]]
    s.Sound ∧ s.Typed ∧
      ∃ row ∈ (LibraryQuery.compile .tracks {}).statement.rows s.tables,
        ∃ t, TrackRow.ofRow row = .ok t ∧ t.hasSubtitles = true := by
  intro s
  have hs : s.Sound := by decide
  have ht : s.Typed := by decide
  let track := Store.newRow .tracks 1
    [("album_id", .integer 1), ("title", .text "one"), ("path", .text "one.mp3")]
  have hrow : Shape.tracks.present s {} track ∈
      (LibraryQuery.compile .tracks {}).statement.rows s.tables :=
    (Shape.tracks.rows_compile_perm hs {}).mem_iff.2 (List.mem_map_of_mem
      (List.mem_filter.2 ⟨List.mem_singleton_self track, by decide⟩))
  obtain ⟨t, hread, other, hother, album, -, hof⟩ := (records_as_stored hs ht {}).2.1 _ hrow
  refine ⟨hs, ht, _, hrow, t, hread, hof.subtitles.2 ⟨.remoteSubtitles, by decide, _,
    List.mem_singleton_self _, ?_⟩⟩
  have hid := hof.cells _ (.head _)
  rw [List.mem_singleton.1 hother] at hid
  exact hid

end AudioLibrary
