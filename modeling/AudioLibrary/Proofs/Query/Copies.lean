import AudioLibrary.Proofs.Query.Answers

/-!
# Where the files of albums are, and their covers

An album tells itself whether its files are here, whether they are to be downloaded, and which cover
it shows.  A statement decides the same from the stored values.

The two agree on every album that can be read, as far as the stored values are texts.  A statement
takes bytes for a path, and reading takes them for an error in the path of files and for no text at
all in the path of a cover: so `copies_and_covers` says what a call gives of any library, and
`bytes_taken_for_paths` shows a library with bytes.
-/

namespace AudioLibrary

open AudioLibrary.Relational

/-! ## What an album tells of its files -/

/-- Whether the files of an album are where they must be, as the album tells. -/
def SourceFilter.admits : SourceFilter → Album → Bool
  | .localOnly, a => a.hasLocalCopy && !a.hasDownloadCopy
  | .downloadOnly, a => !a.hasLocalCopy && a.hasDownloadCopy
  | .localAndDownload, a => a.hasLocalCopy && a.hasDownloadCopy
  | .both, _ => true

namespace Album

/-- Whether an album tells of no files at all. -/
def hasNoCopy (a : Album) : Bool := !a.hasLocalCopy && !a.hasDownloadCopy

/-- A path that can be read is there for the album if it is there for a statement. -/
theorem isPresent_text?_iff {v : Value} (h : Row.Need.optionalText.isMet (some v) = true) :
    isPresent v.text? = true ↔ Predicate.IsPath v := by
  unfold Predicate.IsPath
  cases v with
  | null => simp [isPresent, Value.text?]
  | text path => simp [isPresent, Value.text?]
  | integer | real | blob => exact absurd h Bool.false_ne_true

theorem admits_iff {row : Row} {a : Album} (hread : ofRow row = .ok a) (source : SourceFilter) :
    source.admits a = true ↔ Predicate.HasSource row source := by
  obtain ⟨hmet, rfl⟩ := readsBy.eq_ok_iff.1 hread
  have hneeds := Row.lacking?_eq_none_iff.1 hmet
  have hpath : ∀ column, (column, Row.Need.optionalText) ∈ needs →
      (isPresent (row.value column).text? = true ↔ Predicate.IsPath (row.value column)) :=
    fun column hcolumn =>
      isPresent_text?_iff ((Row.Need.isMet_get? _ row column).symm.trans (hneeds _ hcolumn))
  have hlocal : (reading row).hasLocalCopy = true ↔ Predicate.IsPath (row.value "local_path") :=
    hpath "local_path" (by decide)
  have haway : (reading row).hasDownloadCopy = true ↔
      Predicate.IsPath (row.value "download_path") := hpath "download_path" (by decide)
  cases source <;>
    simp [SourceFilter.admits, Predicate.HasSource, ← hlocal, ← haway, and_comm]

/-- An album has its files here, elsewhere, in both places, or in none. -/
theorem perm_of_copies (library : List Album) :
    (library.filter SourceFilter.localOnly.admits ++
      library.filter SourceFilter.downloadOnly.admits ++
        library.filter SourceFilter.localAndDownload.admits ++
          library.filter hasNoCopy).Perm library := by
  have hcomm (p q : Album → Bool) : (fun a => p a && q a) = fun a => q a && p a :=
    funext fun a => Bool.and_comm (p a) (q a)
  have hsplit (p : Album → Bool) :
      ((library.filter fun a => p a && a.hasDownloadCopy) ++
        library.filter fun a => p a && !a.hasDownloadCopy).Perm (library.filter p) := by
    have hperm := List.filter_append_perm hasDownloadCopy (library.filter p)
    rwa [List.filter_filter, List.filter_filter, hcomm hasDownloadCopy,
      hcomm fun a => !a.hasDownloadCopy] at hperm
  have hlibrary := ((hsplit hasLocalCopy).append (hsplit fun a => !a.hasLocalCopy)).trans
    (List.filter_append_perm hasLocalCopy library)
  refine .trans ?_ hlibrary
  rw [← List.append_assoc]
  refine List.Perm.append_right _ ?_
  exact List.perm_append_comm.trans (.of_eq (List.append_assoc ..).symm)

end Album

/-! ## Albums by source -/

instance (album : Row) (source : SourceFilter) : Decidable (Predicate.HasSource album source) := by
  cases source <;> (unfold Predicate.HasSource; infer_instance)

namespace Store

/-- The albums that a filter by source alone gives. -/
def albumsFrom (s : Store) (source : SourceFilter) (sort : SortOrder) : List Row :=
  (LibraryQuery.compile .albums { source := some source, sort }).statement.rows s.tables

variable {s : Store} {source : SourceFilter} {sort : SortOrder}

theorem albumsFrom_perm (hs : s.Sound) (source : SourceFilter) (sort : SortOrder) :
    (s.albumsFrom source sort).Perm ((s.rows .albums).filter fun album =>
      Predicate.HasSource album source) := by
  refine Shape.rows_albums_perm hs fun album _ => ⟨fun h => h.source source rfl, fun h => ?_⟩
  have hother : ({} : FilterSpec).Selects s .albums album := FilterSpec.selects_of_none
  exact
    { album := hother.album
      text := hother.text
      included := hother.included
      excluded := hother.excluded
      actors := hother.actors
      circles := hother.circles
      source := fun other hother => Option.some_inj.1 hother ▸ h }

theorem mem_albumsFrom_iff (hs : s.Sound) {row : Row} :
    row ∈ s.albumsFrom source sort ↔ row ∈ s.rows .albums ∧ Predicate.HasSource row source := by
  rw [(albumsFrom_perm hs source sort).mem_iff, List.mem_filter, decide_eq_true_eq]

/-- In a library that can be read the albums from a source are those that tell so. -/
theorem exists_albumsFrom (hs : s.Sound) {library : List Album}
    (hread : (s.rows .albums).mapM Album.ofRow = .ok library) (source : SourceFilter)
    (sort : SortOrder) :
    ∃ albums, (s.albumsFrom source sort).mapM Album.ofRow = .ok albums ∧
      albums.Perm (library.filter source.admits) := by
  obtain ⟨hmet, rfl⟩ := Album.readsBy.mapM_eq_ok_iff.1 hread
  have hfound : ∀ row ∈ s.albumsFrom source sort, row.lacking? Album.needs = none :=
    fun row hrow => hmet row ((mem_albumsFrom_iff hs).1 hrow).1
  refine ⟨_, Album.readsBy.mapM_eq_ok_iff.2 ⟨hfound, rfl⟩, ?_⟩
  have hsame : (s.rows .albums).filter (source.admits ∘ Album.reading) =
      (s.rows .albums).filter fun album => Predicate.HasSource album source := by
    refine List.filter_congr fun album halbum => ?_
    have hread := Album.readsBy.eq_ok_iff.2 ⟨hmet album halbum, rfl⟩
    rw [Bool.eq_iff_iff, decide_eq_true_eq]
    exact Album.admits_iff hread source
  rw [List.filter_map, hsame]
  exact (albumsFrom_perm hs source sort).map _

/-- A library whose text columns hold texts can be read. -/
theorem Textual.exists_library (ht : s.Textual) (hs : s.Sound) :
    ∃ library, (s.rows .albums).mapM Album.ofRow = .ok library := by
  have hall : ∀ row ∈ s.rows .albums, row.lacking? Album.needs = none :=
    fun row hrow => Album.lacking?_eq_none hs ht hrow
  exact ⟨_, Album.readsBy.mapM_eq_ok_iff.2 ⟨hall, rfl⟩⟩

end Store

/-- Calls for the albums from a source give their pages. -/
theorem Database.givesPages_albumsFrom {db : Database} (hopen : db.closed = false) (size : UInt32)
    (source : SourceFilter) (sort : SortOrder) :
    db.GivesPages
      (LibraryService.queryAlbums ⟨Database.adapter, size⟩ { source := some source, sort })
      (db.store.albumsFrom source sort) Album.ofRow := by
  have hshort : (LibraryQuery.compile .albums
      { source := some source, sort }).statement.meetsLongPattern db.store.tables = false := by
    refine LibraryQuery.meetsLongPattern_eq_false fun p hp scope => ?_
    cases source with
    | both => exact absurd hp List.not_mem_nil
    | _ =>
        rw [List.mem_singleton.1 hp]
        rfl
  have hcount : (LibraryQuery.compile .albums
      { source := some source, sort }).count.statement.check = .ok () := by
    cases source <;> cases sort <;> rfl
  have hwindow : ∀ request, ((LibraryQuery.compile .albums
      { source := some source, sort }).page request).statement.check = .ok () := by
    intro request
    cases source <;> cases sort <;> rfl
  exact givesPages_albums_of_open hopen hcount hwindow hshort

/-! ## Covers -/

/-- A cover that is shown of an album: the one that the album shows itself, if a text is stored for
its thumbnail, and else none. -/
structure ShowsCover (cover : String) (album : Row) : Prop where
  text : ∀ thumb, album.value "cover_thumb_path" = .text thumb →
    ∀ a, Album.ofRow album = .ok a → cover = a.displayCoverPath
  other : (∀ thumb, album.value "cover_thumb_path" ≠ .text thumb) → cover = ""

section Covers

variable {s : Store} {spec : FilterSpec} {row : Row}

theorem showsCover_coverValue (hs : s.Sound) {album : Row} (halbum : album ∈ s.rows .albums) :
    ShowsCover ((coverValue album).text?.getD "") album := by
  unfold coverValue
  constructor
  · intro thumb hthumb a hread
    obtain ⟨-, rfl⟩ := Album.readsBy.eq_ok_iff.1 hread
    have hshown : (Album.reading album).coverThumbPath = thumb := by
      show (album.value "cover_thumb_path").text?.getD "" = thumb
      rw [hthumb]
      rfl
    unfold Album.displayCoverPath
    rw [hshown, hthumb]
    by_cases hempty : thumb = ""
    · subst hempty
      rfl
    · have hpath : Predicate.IsPath (.text thumb) :=
        ⟨nofun, fun h => hempty (Value.text.inj h)⟩
      have hfilled : ¬ thumb.isEmpty = true := by simpa using hempty
      rw [if_pos hpath, if_neg hfilled]
      rfl
  · intro hother
    have hnull : album.value "cover_thumb_path" ≠ .null :=
      hs.required .albums album halbum (.textOrEmpty "cover_thumb_path") (by decide) rfl
    rw [if_pos ⟨hnull, hother ""⟩]
    cases hvalue : album.value "cover_thumb_path" with
    | text thumb => exact absurd hvalue (hother thumb)
    | _ => rfl

/-- A header shows the cover of its album. -/
theorem AlbumHeader.showsCover (hs : s.Sound) {h : AlbumHeader}
    (hrow : row ∈ (LibraryQuery.compile .headers spec).statement.rows s.tables)
    (hread : ofRow row = .ok h) :
    ∃ album ∈ s.rows .albums, album.value "id" = .integer h.albumId.value ∧
      ShowsCover h.coverPath album := by
  obtain ⟨track, htrack, rfl⟩ := Shape.exists_present_of_mem_rows hs hrow
  rw [Shape.present_headers] at hread
  obtain ⟨-, rfl⟩ := readsBy.eq_ok_iff.1 hread
  have halbum : s.ownerOf track ∈ s.rows .albums := hs.ownerOf_mem htrack
  obtain ⟨id, hid⟩ := hs.numbered .albums _ halbum
  refine ⟨s.ownerOf track, halbum, ?_, showsCover_coverValue hs halbum⟩
  show (s.ownerOf track).value "id" = .integer (((s.ownerOf track).value "id").integer?.getD 0)
  rw [show (s.ownerOf track).value "id" = .integer id from hid]
  rfl

/-- A track in a list shows the cover of its album. -/
theorem TrackRow.showsCover (hs : s.Sound) {shape : Shape} (htable : shape.table = .tracks)
    (hpresent : shape.present s spec = trackCells s) {t : TrackRow}
    (hrow : row ∈ (LibraryQuery.compile shape spec).statement.rows s.tables)
    (hread : ofRow row = .ok t) :
    ∃ album ∈ s.rows .albums, album.value "id" = .integer t.albumId.value ∧
      ShowsCover t.coverPath album := by
  obtain ⟨track, htrack, rfl⟩ := Shape.exists_present_of_mem_rows hs hrow
  rw [htable] at htrack
  rw [hpresent] at hread
  obtain ⟨-, rfl⟩ := readsBy.eq_ok_iff.1 hread
  have halbum : s.ownerOf track ∈ s.rows .albums := hs.ownerOf_mem htrack
  obtain ⟨id, hid, -⟩ := hs.exists_referred .tracks "album_id" .albums (by decide) htrack
  refine ⟨s.ownerOf track, halbum, ?_, showsCover_coverValue hs halbum⟩
  show (s.ownerOf track).value "id" = .integer ((track.value "album_id").integer?.getD 0)
  rw [hs.value_id_ownerOf htrack, hid]
  rfl

end Covers

/-! ## The two together -/

/-- **Statements and albums agree about copies and covers.**  A filter by source gives, each once,
stored albums whose paths say so, and of the albums that can be read exactly those that tell so
themselves.  A call gives a page of them, or the error of the first on the page that cannot be read.
Where the library can be read, the albums here, those to be downloaded, those in both places and
those in neither make up the library.  Rows of tracks and headers show the cover that their album
shows, if a text is stored for its thumbnail, and else none.  Where text columns hold texts, the
library can be read and thumbnails are texts. -/
theorem copies_and_covers {session : Session Database} (hopen : session.state.closed = false)
    (hs : session.state.store.Sound) (size : UInt32) :
    let service : LibraryService Database := ⟨Database.adapter, size⟩
    let store := session.state.store
    (∀ source sort,
      (store.albumsFrom source sort).Perm
        ((store.rows .albums).filter fun album => Predicate.HasSource album source) ∧
      (∀ album ∈ store.rows .albums, ∀ a, Album.ofRow album = .ok a →
        (album ∈ store.albumsFrom source sort ↔ source.admits a = true)) ∧
      session.state.GivesPages (service.queryAlbums { source := some source, sort })
        (store.albumsFrom source sort) Album.ofRow) ∧
    (∀ sort library, (store.rows .albums).mapM Album.ofRow = .ok library →
      ∃ here away both,
        (store.albumsFrom .localOnly sort).mapM Album.ofRow = .ok here ∧
        (store.albumsFrom .downloadOnly sort).mapM Album.ofRow = .ok away ∧
        (store.albumsFrom .localAndDownload sort).mapM Album.ofRow = .ok both ∧
        here.Perm (library.filter fun a => a.hasLocalCopy && !a.hasDownloadCopy) ∧
        away.Perm (library.filter fun a => !a.hasLocalCopy && a.hasDownloadCopy) ∧
        both.Perm (library.filter fun a => a.hasLocalCopy && a.hasDownloadCopy) ∧
        (here ++ away ++ both ++
          library.filter fun a => !a.hasLocalCopy && !a.hasDownloadCopy).Perm library) ∧
    (∀ spec,
      (∀ row ∈ (LibraryQuery.compile .tracks spec).statement.rows store.tables,
        ∀ t, TrackRow.ofRow row = .ok t →
          ∃ album ∈ store.rows .albums, album.value "id" = .integer t.albumId.value ∧
            ShowsCover t.coverPath album) ∧
      (∀ id, ∀ row ∈ (LibraryQuery.compile (.albumTracks id) spec).statement.rows store.tables,
        ∀ t, TrackRow.ofRow row = .ok t →
          ∃ album ∈ store.rows .albums, album.value "id" = .integer t.albumId.value ∧
            ShowsCover t.coverPath album) ∧
      ∀ row ∈ (LibraryQuery.compile .headers spec).statement.rows store.tables,
        ∀ h, AlbumHeader.ofRow row = .ok h →
          ∃ album ∈ store.rows .albums, album.value "id" = .integer h.albumId.value ∧
            ShowsCover h.coverPath album) ∧
    (store.Textual →
      (∃ library, (store.rows .albums).mapM Album.ofRow = .ok library) ∧
      ∀ album ∈ store.rows .albums, ∃ thumb, album.value "cover_thumb_path" = .text thumb) := by
  intro service store
  refine ⟨fun source sort => ⟨?_, ?_, ?_⟩, ?_, fun spec => ⟨?_, ?_, ?_⟩, fun ht => ⟨?_, ?_⟩⟩
  · exact Store.albumsFrom_perm hs source sort
  · intro album halbum a hread
    rw [Store.mem_albumsFrom_iff hs, and_iff_right halbum, Album.admits_iff hread]
  · exact Database.givesPages_albumsFrom hopen size source sort
  · intro sort library hread
    obtain ⟨here, hhere, hhereIs⟩ := Store.exists_albumsFrom hs hread .localOnly sort
    obtain ⟨away, haway, hawayIs⟩ := Store.exists_albumsFrom hs hread .downloadOnly sort
    obtain ⟨both, hboth, hbothIs⟩ := Store.exists_albumsFrom hs hread .localAndDownload sort
    have hall := (((hhereIs.append hawayIs).append hbothIs).append_right
      (library.filter Album.hasNoCopy)).trans (Album.perm_of_copies library)
    exact ⟨here, away, both, hhere, haway, hboth, hhereIs, hawayIs, hbothIs, hall⟩
  · intro row hrow t hread
    exact TrackRow.showsCover hs rfl (funext (Shape.present_tracks store spec)) hrow hread
  · intro id row hrow t hread
    have hlisted : (Shape.albumTracks id).present store spec = trackCells store :=
      funext (Shape.present_tracks store spec)
    exact TrackRow.showsCover hs rfl hlisted hrow hread
  · intro row hrow h hread
    exact AlbumHeader.showsCover hs hrow hread
  · exact ht.exists_library hs
  · intro album halbum
    exact ht.text .albums "cover_thumb_path" (by decide) halbum

/-- An empty path is none, and a thumbnail comes before a cover. -/
theorem copies_and_covers_empty_path :
    let album := Store.newRow .albums 1
      [("title", .text "one"), ("path", .text "shelf"), ("local_path", .text "here"),
        ("download_path", .text ""), ("cover_path", .text "full.jpg"),
        ("cover_thumb_path", .text "small.jpg")]
    let track := Store.newRow .tracks 1
      [("album_id", .integer 1), ("title", .text "one"), ("path", .text "one.mp3")]
    let store := (({} : Store).setRows .albums [album]).setRows .tracks [track]
    let session : Session Database := { state := { store } }
    session.state.closed = false ∧ store.Sound ∧ album ∈ store.albumsFrom .localOnly .titleAsc ∧
      ∃ row ∈ (LibraryQuery.compile .tracks {}).statement.rows store.tables,
        ∃ t, TrackRow.ofRow row = .ok t ∧ t.coverPath = "small.jpg" := by
  intro album track store session
  have hopen : session.state.closed = false := rfl
  have hs : store.Sound := by decide
  obtain ⟨hsources, -, hcovers, -⟩ := copies_and_covers hopen hs 10
  have hread : Album.ofRow album = .ok (Album.reading album) := rfl
  have hfrom : album ∈ store.albumsFrom .localOnly .titleAsc :=
    ((hsources .localOnly .titleAsc).2.1 album (List.mem_singleton_self _) _ hread).2 (by decide)
  have hrow : Shape.tracks.present store {} track ∈
      (LibraryQuery.compile .tracks {}).statement.rows store.tables :=
    (Shape.tracks.rows_compile_perm hs {}).mem_iff.2 (List.mem_map_of_mem
      (List.mem_filter.2 ⟨List.mem_singleton_self track, by decide⟩))
  have hshown : TrackRow.ofRow (Shape.tracks.present store {} track) =
      .ok (TrackRow.reading (trackCells store track)) := by
    rw [Shape.present_tracks]
    rfl
  obtain ⟨owner, howner, -, hcover⟩ := (hcovers {}).1 _ hrow _ hshown
  obtain rfl := List.mem_singleton.1 howner
  exact ⟨hopen, hs, hfrom, _, hrow, _, hshown, hcover.text "small.jpg" (by decide) _ hread⟩

/-- Bytes are a path to a statement and to no album.  An album whose thumbnail is bytes shows its
cover, and a header of it shows none; and a call for albums whose files are here fails over an album
whose title is bytes, though no album that can be read has its files here. -/
theorem bytes_taken_for_paths :
    let pictured := Store.newRow .albums 1
      [("title", .text "one"), ("path", .text "shelf"), ("cover_path", .text "full.jpg"),
        ("cover_thumb_path", .blob [1])]
    let untitled := Store.newRow .albums 2
      [("title", .blob [1]), ("path", .text "shelf"), ("local_path", .text "here")]
    let track := Store.newRow .tracks 1
      [("album_id", .integer 1), ("title", .text "one"), ("path", .text "one.mp3")]
    let store := (({} : Store).setRows .albums [pictured, untitled]).setRows .tracks [track]
    store.Sound ∧
      (∃ row ∈ (LibraryQuery.compile .tracks {}).statement.rows store.tables,
        ∃ t, TrackRow.ofRow row = .ok t ∧ t.albumId = ⟨1⟩ ∧
          ∃ a, Album.ofRow pictured = .ok a ∧ a.id = ⟨1⟩ ∧ t.coverPath ≠ a.displayCoverPath) ∧
      (∀ album ∈ store.rows .albums, ∀ a, Album.ofRow album = .ok a → a.hasLocalCopy = false) ∧
      ((LibraryService.queryAlbums ⟨Database.adapter, 10⟩ { source := some .localOnly }
        ⟨0, 10⟩).run { state := { store } }).1 = .error (Row.missingColumn "title") := by
  intro pictured untitled track store
  have hs : store.Sound := by decide
  refine ⟨hs, ?_, ?_, ?_⟩
  · have hrow : Shape.tracks.present store {} track ∈
        (LibraryQuery.compile .tracks {}).statement.rows store.tables :=
      (Shape.tracks.rows_compile_perm hs {}).mem_iff.2 (List.mem_map_of_mem
        (List.mem_filter.2 ⟨List.mem_singleton_self track, by decide⟩))
    have hshown : TrackRow.ofRow (Shape.tracks.present store {} track) =
        .ok (TrackRow.reading (trackCells store track)) := by
      rw [Shape.present_tracks]
      rfl
    exact ⟨_, hrow, _, hshown, by decide, _, rfl, by decide, by decide⟩
  · intro album halbum a hread
    rcases List.mem_cons.1 halbum with rfl | halbum
    · obtain ⟨-, rfl⟩ := Album.readsBy.eq_ok_iff.1 hread
      decide
    · obtain rfl := List.mem_singleton.1 halbum
      cases hread
  · have hfound : store.albumsFrom .localOnly .addedDesc = [untitled] :=
      List.perm_singleton.1 ((Store.albumsFrom_perm hs .localOnly .addedDesc).trans
        (.of_eq (by decide)))
    have hopen : ({ state := { store } } : Session Database).state.closed = false := rfl
    have hpage : (⟨0, 10⟩ : PageRequest).pageSize ≠ 0 := by decide
    obtain ⟨count, -, hcalls⟩ := Database.givesPages_albumsFrom hopen 10 .localOnly .addedDesc
    rw [hfound] at hcalls
    exact (hcalls ⟨0, 10⟩ hpage { state := { store } } rfl).2.1 _ rfl

end AudioLibrary
