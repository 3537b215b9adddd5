import AudioLibrary.Proofs.Query.Matching
import AudioLibrary.Proofs.Query.Order

/-!
# Headers and the tracks below them

A host shows tracks under the headers of their albums, and asks for the tracks of each album on its
own.  What it shows is the list of all tracks that match, in its order: `rows_tracks_eq_flatMap`.

Both sides are sorted arrangements of the tracks that match, and without ties there is only one.
On the right this takes that an earlier header stands before a later one strictly, so that every
track of the one stands before every track of the other.
-/

namespace AudioLibrary

open AudioLibrary.Relational
open Std

namespace Shape

variable {s : Store} {spec : FilterSpec}

/-! ## Tracks of one album -/

/-- The matching tracks of the album of a track. -/
def siblings (s : Store) (spec : FilterSpec) (track : Row) : List Row :=
  (tracks.matching s spec).filter fun other => other.value "album_id" = track.value "album_id"

theorem mem_siblings_iff {track other : Row} :
    other ∈ siblings s spec track ↔
      other ∈ tracks.matching s spec ∧ other.value "album_id" = track.value "album_id" := by
  simp [siblings]

theorem mem_tracks_of_mem_matching {track : Row} (h : track ∈ tracks.matching s spec) :
    track ∈ s.rows .tracks :=
  (List.mem_filter.1 h).1

theorem mem_tracks_of_mem_kept {track : Row} (h : track ∈ headers.kept s spec) :
    track ∈ s.rows .tracks :=
  mem_tracks_of_mem_matching (kept_subset_matching headers s spec h)

/-- Asking for one album adds one condition to those of all tracks. -/
theorem matching_albumTracks (hs : s.Sound) (spec : FilterSpec) (id : AlbumId) :
    (albumTracks id).matching s spec =
      (tracks.matching s spec).filter fun track => track.value "album_id" = .integer id.value := by
  unfold matching
  rw [List.filter_filter]
  refine List.filter_congr fun track htrack => ?_
  have hpasses : (albumTracks id).passes s spec track =
      (((Test.eval s.tables ((albumTracks id).scope s spec.sort track)
        (Predicate.ofAlbum id).condition).holds) && tracks.passes s spec track) := rfl
  have hholds : (Test.eval s.tables ((albumTracks id).scope s spec.sort track)
      (Predicate.ofAlbum id).condition).holds =
        decide (track.value "album_id" = .integer id.value) := by
    rw [Bool.eq_iff_iff, decide_eq_true_eq]
    exact holds_ofAlbum_iff hs htrack spec.sort
  rw [hpasses, hholds]

/-- The rows for one album, from the tracks that match. -/
theorem rows_albumTracks (hs : s.Sound) (spec : FilterSpec) (id : AlbumId) :
    (LibraryQuery.compile (.albumTracks id) spec).statement.rows s.tables =
      (((tracks.matching s spec).filter fun track =>
        track.value "album_id" = .integer id.value).mergeSort (tracks.mayPrecede s spec)).map
          (tracks.present s spec) := by
  rw [rows_compile hs]
  show ((((albumTracks id).matching s spec).mergeSort (tracks.mayPrecede s spec)).map
    (tracks.present s spec)) = _
  rw [matching_albumTracks hs]

/-! ## One arrangement -/

/-- The tracks that match, album by album in the order of the headers. -/
def byHeaders (s : Store) (spec : FilterSpec) : List Row :=
  ((headers.kept s spec).mergeSort (headers.mayPrecede s spec)).flatMap fun track =>
    (siblings s spec track).mergeSort (tracks.mayPrecede s spec)

theorem sorted_tracks (hs : s.Sound) (spec : FilterSpec) {l : List Row}
    (hl : l ⊆ tracks.matching s spec) :
    (l.mergeSort (tracks.mayPrecede s spec)).Pairwise fun a b =>
      (tracksOrder s spec.sort a b).isLE = true :=
  pairwise_mergeSort_of_eq fun _ ha _ hb => mayPrecede_tracks hs spec
    (mem_tracks_of_mem_matching (hl ha)) (mem_tracks_of_mem_matching (hl hb))

theorem siblings_subset (s : Store) (spec : FilterSpec) (track : Row) :
    siblings s spec track ⊆ tracks.matching s spec :=
  fun _ h => (mem_siblings_iff.1 h).1

/-- Of two headers the earlier stands before the later strictly. -/
theorem pairwise_headers (hs : s.Sound) (spec : FilterSpec) :
    ((headers.kept s spec).mergeSort (headers.mayPrecede s spec)).Pairwise fun a b =>
      albumsOrder s spec.sort (s.ownerOf a) (s.ownerOf b) = .lt := by
  have hperm := List.mergeSort_perm (headers.kept s spec) (headers.mayPrecede s spec)
  have hsorted : ((headers.kept s spec).mergeSort (headers.mayPrecede s spec)).Pairwise fun a b =>
      (albumsOrder s spec.sort (s.ownerOf a) (s.ownerOf b)).isLE = true :=
    pairwise_mergeSort_of_eq fun _ ha _ hb => mayPrecede_headers hs spec
      (mem_tracks_of_mem_kept ha) (mem_tracks_of_mem_kept hb)
  have hdistinct : ((headers.kept s spec).mergeSort (headers.mayPrecede s spec)).Pairwise
      fun a b => a.value "album_id" ≠ b.value "album_id" :=
    List.pairwise_map.1
      ((hperm.map headers.itemId).nodup_iff.2 (nodup_itemId_kept hs headers spec))
  refine (hsorted.and hdistinct).imp_of_mem ?_
  rintro a b ha hb ⟨hle, hne⟩
  have ha := mem_tracks_of_mem_kept (hperm.mem_iff.1 ha)
  have hb := mem_tracks_of_mem_kept (hperm.mem_iff.1 hb)
  cases horder : albumsOrder s spec.sort (s.ownerOf a) (s.ownerOf b) with
  | lt => rfl
  | gt => simp [horder] at hle
  | eq =>
      have hsame := eq_of_albumsOrder_eq hs (hs.ownerOf_mem ha) (hs.ownerOf_mem hb) horder
      refine absurd ?_ hne
      rw [← hs.value_id_ownerOf ha, ← hs.value_id_ownerOf hb, hsame]

/-- Tracks of one album have one owner. -/
theorem ownerOf_eq_of_mem_siblings {track other : Row} (h : other ∈ siblings s spec track) :
    s.ownerOf other = s.ownerOf track := by
  unfold Store.ownerOf
  rw [(mem_siblings_iff.1 h).2]

theorem sorted_byHeaders (hs : s.Sound) (spec : FilterSpec) :
    (byHeaders s spec).Pairwise fun a b => (tracksOrder s spec.sort a b).isLE = true := by
  unfold byHeaders
  refine List.pairwise_flatMap.2 ⟨?_, ?_⟩
  · intro track _
    exact sorted_tracks hs spec (siblings_subset s spec track)
  · refine (pairwise_headers hs spec).imp ?_
    intro a b hlt x hx y hy
    have hx := ownerOf_eq_of_mem_siblings (List.mem_mergeSort.1 hx)
    have hy := ownerOf_eq_of_mem_siblings (List.mem_mergeSort.1 hy)
    unfold tracksOrder compareLex
    show ((albumsOrder s spec.sort (s.ownerOf x) (s.ownerOf y)).then _).isLE = true
    rw [hx, hy, hlt]
    rfl

theorem nodup_matching (hs : s.Sound) (spec : FilterSpec) : (tracks.matching s spec).Nodup :=
  (hs.nodup_rows .tracks).filter _

/-- Every track that matches stands below one header. -/
theorem byHeaders_perm (hs : s.Sound) (spec : FilterSpec) :
    (byHeaders s spec).Perm (tracks.matching s spec) := by
  have hperm := List.mergeSort_perm (headers.kept s spec) (headers.mayPrecede s spec)
  have hnodup : (byHeaders s spec).Nodup := by
    refine List.nodup_flatMap.2 ⟨?_, ?_⟩
    · intro track _
      exact (List.mergeSort_perm _ _).nodup_iff.2 ((nodup_matching hs spec).filter _)
    · have hdistinct := (hperm.map headers.itemId).nodup_iff.2 (nodup_itemId_kept hs headers spec)
      refine (List.pairwise_map.1 hdistinct).imp ?_
      intro a b hne x hx hy
      have hx := (mem_siblings_iff.1 (List.mem_mergeSort.1 hx)).2
      have hy := (mem_siblings_iff.1 (List.mem_mergeSort.1 hy)).2
      exact hne (hx.symm.trans hy)
  refine (List.perm_ext_iff_of_nodup hnodup (nodup_matching hs spec)).2 fun track => ?_
  unfold byHeaders
  rw [List.mem_flatMap]
  constructor
  · rintro ⟨header, -, htrack⟩
    exact siblings_subset s spec header (List.mem_mergeSort.1 htrack)
  · intro htrack
    obtain ⟨header, hheader, heq⟩ := List.mem_map.1
      ((mem_itemId_kept_iff hs headers spec).2 (List.mem_map_of_mem htrack))
    exact ⟨header, List.mem_mergeSort.2 hheader,
      List.mem_mergeSort.2 (mem_siblings_iff.2 ⟨htrack, heq.symm⟩)⟩

theorem mergeSort_matching_eq_byHeaders (hs : s.Sound) (spec : FilterSpec) :
    (tracks.matching s spec).mergeSort (tracks.mayPrecede s spec) = byHeaders s spec := by
  have hperm := (List.mergeSort_perm (tracks.matching s spec) (tracks.mayPrecede s spec)).trans
    (byHeaders_perm hs spec).symm
  -- two sorted lists of the same tracks differ in ties at most, and no two tracks are tied
  refine eq_of_perm_of_sorted (sorted_tracks hs spec (List.Subset.refl _))
    (sorted_byHeaders hs spec) hperm ?_
  intro a ha b hb htied
  exact eq_of_tracksOrder_eq hs (mem_tracks_of_mem_matching (List.mem_mergeSort.1 ha))
    (mem_tracks_of_mem_matching (List.mem_mergeSort.1 hb)) htied

/-! ## Headers -/

/-- The album that a header is about. -/
def headerAlbum (header : Row) : AlbumId := ⟨(header.value "album_id").integer?.getD 0⟩

/-- The album of a header is that of the track it is shown for. -/
theorem headerAlbum_present (hs : s.Sound) {track : Row} (htrack : track ∈ headers.kept s spec) :
    track.value "album_id" = .integer (headerAlbum (headers.present s spec track)).value ∧
      (headers.present s spec track).value "album_id" = track.value "album_id" := by
  have hrow := mem_tracks_of_mem_kept htrack
  have hvalue := value_present hs headers spec hrow
  change (headers.present s spec track).value "album_id" = track.value "album_id" at hvalue
  obtain ⟨i, hi, -⟩ := hs.exists_referred .tracks "album_id" .albums (by decide) hrow
  refine ⟨?_, hvalue⟩
  unfold headerAlbum
  rw [hvalue, hi]
  rfl

/-- The rows for the album of a header are its tracks that match, sorted. -/
theorem rows_albumTracks_headerAlbum (hs : s.Sound) {track : Row}
    (htrack : track ∈ headers.kept s spec) :
    (LibraryQuery.compile (.albumTracks (headerAlbum (headers.present s spec track)))
      spec).statement.rows s.tables =
        ((siblings s spec track).mergeSort (tracks.mayPrecede s spec)).map
          (tracks.present s spec) := by
  rw [rows_albumTracks hs, ← (headerAlbum_present hs htrack).1]
  rfl

/-- The rows of the headers are one for each track that is kept. -/
theorem mem_rows_headers_iff (hs : s.Sound) {h : Row} :
    h ∈ (LibraryQuery.compile .headers spec).statement.rows s.tables ↔
      ∃ track ∈ headers.kept s spec, headers.present s spec track = h := by
  rw [(rows_compile_perm hs .headers spec).mem_iff, List.mem_map]

theorem value_album_of_mem_rows_headers (hs : s.Sound) {h : Row}
    (hh : h ∈ (LibraryQuery.compile .headers spec).statement.rows s.tables) :
    h.value "album_id" = .integer (headerAlbum h).value := by
  obtain ⟨track, htrack, rfl⟩ := (mem_rows_headers_iff hs).1 hh
  obtain ⟨halbum, hsame⟩ := headerAlbum_present hs htrack
  exact hsame.trans halbum

/-- A header has the track that it is shown for below it. -/
theorem rows_albumTracks_ne_nil (hs : s.Sound) {h : Row}
    (hh : h ∈ (LibraryQuery.compile .headers spec).statement.rows s.tables) :
    (LibraryQuery.compile (.albumTracks (headerAlbum h)) spec).statement.rows s.tables ≠ [] := by
  obtain ⟨track, htrack, rfl⟩ := (mem_rows_headers_iff hs).1 hh
  have hself : track ∈ siblings s spec track :=
    mem_siblings_iff.2 ⟨kept_subset_matching headers s spec htrack, rfl⟩
  rw [rows_albumTracks_headerAlbum hs htrack]
  exact List.ne_nil_of_mem (List.mem_map_of_mem (List.mem_mergeSort.2 hself))

theorem nodup_headerAlbum (hs : s.Sound) (spec : FilterSpec) :
    (((LibraryQuery.compile .headers spec).statement.rows s.tables).map headerAlbum).Nodup := by
  have hnodup : (((LibraryQuery.compile .headers spec).statement.rows s.tables).map
      fun h => h.value "album_id").Nodup :=
    (ids_rows_compile_perm hs headers spec).nodup_iff.2 (nodup_itemId_kept hs headers spec)
  rw [List.map_congr_left fun h hh => value_album_of_mem_rows_headers hs hh] at hnodup
  refine List.Nodup.of_map (fun id : AlbumId => Value.integer id.value) ?_
  rwa [List.map_map]

/-- An album of which a track matches has a header. -/
theorem mem_headerAlbum_of_mem_matching (hs : s.Sound) {track : Row} {id : AlbumId}
    (htrack : track ∈ tracks.matching s spec) (hid : track.value "album_id" = .integer id.value) :
    id ∈ ((LibraryQuery.compile .headers spec).statement.rows s.tables).map headerAlbum := by
  obtain ⟨header, hheader, hsame⟩ := List.mem_map.1
    ((mem_itemId_kept_iff hs headers spec).2 (List.mem_map_of_mem htrack))
  change header.value "album_id" = track.value "album_id" at hsame
  have halbum := (headerAlbum_present hs hheader).1
  rw [hsame, hid] at halbum
  refine List.mem_map.2 ⟨headers.present s spec header,
    (mem_rows_headers_iff hs).2 ⟨header, hheader, rfl⟩, ?_⟩
  cases id
  exact congrArg AlbumId.mk (Value.integer.inj halbum).symm

theorem rows_albumTracks_eq_nil (hs : s.Sound) {id : AlbumId}
    (hid : id ∉ ((LibraryQuery.compile .headers spec).statement.rows s.tables).map headerAlbum) :
    (LibraryQuery.compile (.albumTracks id) spec).statement.rows s.tables = [] := by
  have hnone : (tracks.matching s spec).filter
      (fun track => track.value "album_id" = .integer id.value) = [] := by
    rw [List.filter_eq_nil_iff]
    intro track htrack heq
    rw [decide_eq_true_eq] at heq
    exact hid (mem_headerAlbum_of_mem_matching hs htrack heq)
  rw [rows_albumTracks hs, hnone, List.mergeSort_nil, List.map_nil]

theorem rows_tracks_eq (hs : s.Sound) (spec : FilterSpec) :
    (LibraryQuery.compile .tracks spec).statement.rows s.tables =
      ((LibraryQuery.compile .headers spec).statement.rows s.tables).flatMap fun h =>
        (LibraryQuery.compile (.albumTracks (headerAlbum h)) spec).statement.rows s.tables := by
  calc (LibraryQuery.compile .tracks spec).statement.rows s.tables
    _ = (byHeaders s spec).map (tracks.present s spec) := by
        rw [← mergeSort_matching_eq_byHeaders hs]
        exact rows_compile hs tracks spec
    _ = ((headers.kept s spec).mergeSort (headers.mayPrecede s spec)).flatMap fun track =>
          ((siblings s spec track).mergeSort (tracks.mayPrecede s spec)).map
            (tracks.present s spec) := List.map_flatMap
    _ = _ := by
        rw [rows_compile hs headers, List.flatMap_map]
        refine List.flatMap_congr fun track htrack => ?_
        exact (rows_albumTracks_headerAlbum hs (List.mem_mergeSort.1 htrack)).symm

end Shape

/-- **The tracks under the headers are all tracks.**  The rows for all tracks are, in order, the
rows for the album of each header; no header is without tracks, no album has two headers, and an
album without a header has no tracks. -/
theorem rows_tracks_eq_flatMap {s : Store} (hs : s.Sound) (spec : FilterSpec) :
    let rows (shape : Shape) := (LibraryQuery.compile shape spec).statement.rows s.tables
    (∀ h ∈ rows .headers, h.value "album_id" = .integer (Shape.headerAlbum h).value) ∧
      rows .tracks = (rows .headers).flatMap (fun h => rows (.albumTracks (Shape.headerAlbum h))) ∧
      (∀ h ∈ rows .headers, rows (.albumTracks (Shape.headerAlbum h)) ≠ []) ∧
      ((rows .headers).map Shape.headerAlbum).Nodup ∧
      ∀ id, id ∉ (rows .headers).map Shape.headerAlbum → rows (.albumTracks id) = [] := by
  intro rows
  refine ⟨?_, Shape.rows_tracks_eq hs spec, ?_, Shape.nodup_headerAlbum hs spec, ?_⟩
  · intro h hh
    exact Shape.value_album_of_mem_rows_headers hs hh
  · intro h hh
    exact Shape.rows_albumTracks_ne_nil hs hh
  · intro id hid
    exact Shape.rows_albumTracks_eq_nil hs hid

/-- Of three albums two have headers, with three tracks below them, and the third has none. -/
theorem rows_tracks_eq_flatMap_sample :
    let s := Store.shelf
    let spec : FilterSpec := { circles := .ofList ["Rain"] }
    let rows (shape : Shape) := (LibraryQuery.compile shape spec).statement.rows s.tables
    s.Sound ∧ ((rows .headers).map Shape.headerAlbum).Perm [⟨1⟩, ⟨2⟩] ∧
      (rows .tracks).length = 3 ∧ (rows (.albumTracks ⟨1⟩)).length = 2 ∧
      rows .tracks = (rows .headers).flatMap (fun h => rows (.albumTracks (Shape.headerAlbum h))) ∧
      rows (.albumTracks ⟨3⟩) = [] := by
  intro s spec rows
  have hs : s.Sound := by decide
  have hheaders : ((rows .headers).map Shape.headerAlbum).Perm [⟨1⟩, ⟨2⟩] :=
    ((Shape.headers.rows_compile_perm hs spec).map _).trans (.of_eq (by decide))
  obtain ⟨-, hall, -, -, hnone⟩ := rows_tracks_eq_flatMap hs spec
  refine ⟨hs, hheaders, ?_, ?_, hall, hnone ⟨3⟩ fun hmem => ?_⟩
  · exact (Shape.length_rows_compile hs .tracks spec).trans (by decide)
  · exact (Shape.length_rows_compile hs (.albumTracks ⟨1⟩) spec).trans (by decide)
  · exact absurd (hheaders.mem_iff.1 hmem) (by decide)

end AudioLibrary
