import AudioLibrary.Proofs.Query.Arrangement

/-!
# One filter in all shapes

The shapes of a filter look at different tags and texts: a track has the tags and the texts of its
album and some of its own.  So what a filter asks to be there, a text or a tag, moves from an album
to its tracks, `Selects.of_owner`, and what it asks not to be there moves from a track to its
album, `Selects.owner`.  Actors, circles and the source are the album's in every shape.
-/

namespace AudioLibrary

open AudioLibrary.Relational

variable {s : Store} {spec : FilterSpec} {track : Row}

/-! ## An album and its tracks -/

/-- The tags of an album are tags of its tracks. -/
theorem Store.albumTags_subset_trackTags (s : Store) (track : Row) :
    s.albumTags (s.ownerOf track) ⊆ s.trackTags track :=
  List.subset_append_right _ _

/-- What is searched for an album is searched for its tracks. -/
theorem Shape.sites_subset (s : Store) (track : Row) :
    albums.columnSites s (s.ownerOf track) ++ albums.tagNames s (s.ownerOf track) ⊆
      tracks.columnSites s track ++ tracks.tagNames s track := by
  intro v hv
  rcases List.mem_append.1 hv with hv | hv
  · have hcolumns : albums.columnSites s (s.ownerOf track) =
        ["title", "circle", "cv", "rj_code", "work_id"].map (s.ownerOf track).value :=
      List.append_nil _
    rw [hcolumns] at hv
    exact List.mem_append_left _ (List.mem_append_left _ hv)
  · obtain ⟨tag, htag, rfl⟩ := List.mem_map.1 hv
    obtain ⟨htag, hid⟩ := List.mem_filter.1 htag
    have hid' := s.albumTags_subset_trackTags track (of_decide_eq_true hid)
    exact List.mem_append_right _
      (List.mem_map.2 ⟨tag, List.mem_filter.2 ⟨htag, decide_eq_true hid'⟩, rfl⟩)

namespace FilterSpec

/-- A filter that excludes no tag selects the tracks of the albums that it selects. -/
theorem Selects.of_owner (hnone : spec.excludeTags = ∅)
    (h : spec.Selects s .albums (s.ownerOf track)) : spec.Selects s .tracks track where
  album := nofun
  text word hword := by
    obtain ⟨v, hv, hlike⟩ := h.text word hword
    exact ⟨v, Shape.sites_subset s track hv, hlike⟩
  included id hid := s.albumTags_subset_trackTags track (h.included id hid)
  excluded id hid := absurd (hnone ▸ hid) (SortedSet.not_mem_empty id)
  actors := h.actors
  circles := h.circles
  source := h.source

/-- A filter that asks for no text and includes no tag selects the albums of the tracks that it
selects. -/
theorem Selects.owner (htext : spec.searchText = none) (hnone : spec.includeTags = ∅)
    (h : spec.Selects s .tracks track) : spec.Selects s .albums (s.ownerOf track) where
  album := nofun
  text word hword := by
    rw [htext] at hword
    cases hword
  included id hid := absurd (hnone ▸ hid) (SortedSet.not_mem_empty id)
  excluded id hid htag := h.excluded id hid (s.albumTags_subset_trackTags track htag)
  actors := h.actors
  circles := h.circles
  source := h.source

/-- A header is shown for the tracks that are shown. -/
theorem selects_headers_iff : spec.Selects s .headers track ↔ spec.Selects s .tracks track :=
  ⟨fun h => ⟨nofun, h.text, h.included, h.excluded, h.actors, h.circles, h.source⟩,
    fun h => ⟨nofun, h.text, h.included, h.excluded, h.actors, h.circles, h.source⟩⟩

end FilterSpec

/-! ## Results -/

/-- The numbers in a result are those of the items that the filter gives. -/
theorem Shape.exists_row_iff (hs : s.Sound) (shape : Shape) {id : Value} :
    (∃ row ∈ (LibraryQuery.compile shape spec).statement.rows s.tables,
        row.value shape.idColumn = id) ↔
      ∃ item, shape.Gives s spec item ∧ item.value "id" = id := by
  rw [rows_eq_map_shown hs]
  constructor
  · rintro ⟨row, hrow, rfl⟩
    obtain ⟨item, hitem, rfl⟩ := List.mem_map.1 hrow
    exact ⟨item, (mem_itemsOf_iff hs shape).1 hitem, (value_shown shape s item).symm⟩
  · rintro ⟨item, hgives, rfl⟩
    exact ⟨_, List.mem_map_of_mem ((mem_itemsOf_iff hs shape).2 hgives), value_shown shape s item⟩

/-- A track gives a row exactly if the filter selects it. -/
theorem Shape.gives_tracks_iff {item : Row} :
    tracks.Gives s spec item ↔ item ∈ s.rows .tracks ∧ spec.Selects s .tracks item := by
  constructor
  · rintro ⟨row, hrow, rfl, hselects⟩
    exact ⟨hrow, hselects⟩
  · rintro ⟨hitem, hselects⟩
    exact ⟨item, hitem, rfl, hselects⟩

/-- The owner of a track is the album with the number that the track tells. -/
theorem Store.Sound.ownerOf_eq (hs : s.Sound) {album : Row} (halbum : album ∈ s.rows .albums)
    (htrack : track ∈ s.rows .tracks) (howner : track.value "album_id" = album.value "id") :
    s.ownerOf track = album :=
  hs.eq_of_number (t := .albums) (hs.ownerOf_mem htrack) halbum
    ((hs.value_id_ownerOf htrack).trans howner)

/-- An album that a filter without exclusions selects has a header exactly if it has a track. -/
theorem Shape.exists_header_iff (hs : s.Sound) (hnone : spec.excludeTags = ∅) {album : Row}
    (halbum : album ∈ s.rows .albums) (hselects : spec.Selects s .albums album) :
    (∃ header ∈ (LibraryQuery.compile .headers spec).statement.rows s.tables,
        header.value "album_id" = album.value "id") ↔
      ∃ track ∈ s.rows .tracks, track.value "album_id" = album.value "id" := by
  rw [show "album_id" = headers.idColumn from rfl, exists_row_iff hs]
  constructor
  · rintro ⟨_, ⟨track, htrack, rfl, -⟩, hid⟩
    exact ⟨track, htrack, (hs.value_id_ownerOf htrack).symm.trans hid⟩
  · rintro ⟨track, htrack, hid⟩
    have howner := hs.ownerOf_eq halbum htrack hid
    refine ⟨album, ⟨track, htrack, howner, ?_⟩, rfl⟩
    exact FilterSpec.selects_headers_iff.2 (FilterSpec.Selects.of_owner hnone (howner ▸ hselects))

/-- **All shapes honour one filter.**  If the filter excludes no tag, every album that it gives has
all of its tracks among the tracks, and a header exactly if it has a track.  If the filter asks for
no text and includes no tag, every album that has a header is among the albums. -/
theorem rows_albums_agree (hs : s.Sound) (spec : FilterSpec) :
    let rows (shape : Shape) := (LibraryQuery.compile shape spec).statement.rows s.tables
    (spec.excludeTags = ∅ → ∀ album ∈ rows .albums,
      (∀ track ∈ s.rows .tracks, track.value "album_id" = album.value "id" →
        ∃ row ∈ rows .tracks, row.value "track_id" = track.value "id") ∧
      ((∃ header ∈ rows .headers, header.value "album_id" = album.value "id") ↔
        ∃ track ∈ s.rows .tracks, track.value "album_id" = album.value "id")) ∧
    (spec.searchText = none → spec.includeTags = ∅ → ∀ header ∈ rows .headers,
      ∃ album ∈ rows .albums, album.value "id" = header.value "album_id") := by
  intro rows
  refine ⟨?_, ?_⟩
  · intro hnone album halbum
    obtain ⟨halbum, hpasses⟩ := (mem_rows_compile_albums_iff hs spec).1 halbum
    have hselects := (passes_iff_selects hs .albums halbum spec).1 hpasses
    refine ⟨?_, Shape.exists_header_iff hs hnone halbum hselects⟩
    intro track htrack howner
    have howner := hs.ownerOf_eq halbum htrack howner
    refine (Shape.exists_row_iff hs .tracks).2 ⟨track, ?_, rfl⟩
    exact Shape.gives_tracks_iff.2
      ⟨htrack, FilterSpec.Selects.of_owner hnone (howner ▸ hselects)⟩
  · intro htext hnone header hheader
    obtain ⟨_, ⟨track, htrack, rfl, hselects⟩, hid⟩ :=
      (Shape.exists_row_iff hs .headers).1 ⟨header, hheader, rfl⟩
    have hselects' := (FilterSpec.selects_headers_iff.1 hselects).owner htext hnone
    refine (Shape.exists_row_iff hs .albums).2 ⟨s.ownerOf track, ?_, hid⟩
    exact ⟨_, hs.ownerOf_mem htrack, rfl, hselects'⟩

/-- An album found by a text and a tag has its track and a header; and one with a header, found
without the tag 2, is among the albums. -/
theorem rows_albums_agree_sample :
    let s := Store.sample "one"
    let rows (shape : Shape) (spec : FilterSpec) :=
      (LibraryQuery.compile shape spec).statement.rows s.tables
    let found : FilterSpec := { textQuery := some "o", includeTags := .ofList [⟨1⟩] }
    let without : FilterSpec :=
      { excludeTags := .ofList [⟨2⟩], voiceActors := .ofList ["Hana"] }
    s.Sound ∧ found.excludeTags = ∅ ∧ without.searchText = none ∧ without.includeTags = ∅ ∧
      (∃ album ∈ rows .albums found, ∃ track ∈ s.rows .tracks,
        track.value "album_id" = album.value "id" ∧
        (∃ row ∈ rows .tracks found, row.value "track_id" = track.value "id") ∧
        ∃ header ∈ rows .headers found, header.value "album_id" = album.value "id") ∧
      ∃ header ∈ rows .headers without,
        ∃ album ∈ rows .albums without, album.value "id" = header.value "album_id" := by
  intro s rows found without
  have hs : s.Sound := by decide
  have hfound : rows .albums found ≠ [] := by decide +kernel
  have hheaders : rows .headers without ≠ [] := by decide +kernel
  obtain ⟨album, halbum⟩ := List.exists_mem_of_ne_nil _ hfound
  obtain ⟨header, hheader⟩ := List.exists_mem_of_ne_nil _ hheaders
  obtain ⟨htracks, hheader'⟩ := (rows_albums_agree hs found).1 rfl album halbum
  have hmem : album ∈ s.rows .albums := ((mem_rows_compile_albums_iff hs found).1 halbum).1
  obtain ⟨track, htrack, howner⟩ : ∃ track ∈ s.rows .tracks,
      track.value "album_id" = album.value "id" := by
    obtain rfl := List.mem_singleton.1 hmem
    decide
  exact ⟨hs, rfl, rfl, rfl,
    ⟨album, halbum, track, htrack, howner, htracks track htrack howner,
      hheader'.2 ⟨track, htrack, howner⟩⟩,
    header, hheader, (rows_albums_agree hs without).2 rfl rfl header hheader⟩

end AudioLibrary
