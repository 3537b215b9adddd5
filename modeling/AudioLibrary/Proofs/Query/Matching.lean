import AudioLibrary.Proofs.Query.Selecting

/-!
# What a query selects

`FilterSpec.Accepts` says what a filter asks of a row, with no statement in sight: of an album, or
of a track together with its album.  A query gives each item that the filter accepts once and
nothing else, in all shapes, `ids_rows_compile`.

Texts are compared as the store compares them.  `Found` and `Credited` are plain search up to
ASCII case, but for the noncharacters U+FFFE and U+FFFF, which count as U+FFFD, and for a U+0000 in
what is looked for, which ends it.  `not_plain_search` shows that the difference can be seen.
-/

namespace AudioLibrary

open AudioLibrary.Relational

/-! ## What a filter asks -/

/-- Whether a filter accepts a row: an album, or a track with its album. -/
structure FilterSpec.Accepts (spec : FilterSpec) (s : Store) (shape : Shape) (row : Row) :
    Prop where
  album : ∀ id, shape.album? = some id → row.value "album_id" = .integer id.value
  text : ∀ word, spec.searchText = some word →
    ∃ text, .text text ∈ shape.columnSites s row ++ shape.tagNames s row ∧
      Found word.toList text.toList
  included : ∀ id ∈ spec.includeTags, .integer id.value ∈ shape.tagScope.tagsOf s row
  excluded : ∀ id ∈ spec.excludeTags, .integer id.value ∉ shape.tagScope.tagsOf s row
  actors : (∀ name ∈ spec.voiceActors, Credits.key name.toList = []) ∨
    ∃ name ∈ spec.voiceActors, Credits.key name.toList ≠ [] ∧
      ∃ field, (shape.albumOf s row).value "cv" = .text field ∧
        Credits.Credited (Credits.key name.toList) field.toList
  circles : spec.circles = ∅ ∨
    ∃ circle ∈ spec.circles, (shape.albumOf s row).value "circle" = .text circle
  source : ∀ source, spec.source = some source →
    Predicate.HasSource (shape.albumOf s row) source

/-! ## The conditions of a query -/

section Parts

open Shape

variable {s : Store} {spec : FilterSpec} {row : Row}

theorem isPlainText_of_mem_sites (hs : s.Sound) (hl : s.Legible) (shape : Shape)
    (hrow : row ∈ s.rows shape.table) :
    ∀ v ∈ shape.columnSites s row ++ shape.tagNames s row, Store.IsPlainText v := by
  have halbum := shape.albumOf_mem hs hrow
  have hcolumns : ∀ column ∈ ["title", "circle", "cv", "rj_code", "work_id"],
      ∃ c ∈ Table.albums.columns, c.name = column ∧ c.affinity = .text ∧ c.required = true := by
    decide
  intro v hv
  unfold columnSites tagNames at hv
  rcases List.mem_append.1 hv with hv | hv
  · rcases List.mem_append.1 hv with hv | hv
    · obtain ⟨column, hcolumn, rfl⟩ := List.mem_map.1 hv
      exact hl.isPlainText .albums column (hcolumns column hcolumn) halbum
    · split at hv
      · simp at hv
      · next hshape =>
          obtain rfl := List.mem_singleton.1 hv
          have htable : shape.table = .tracks := by
            cases shape <;> first | rfl | exact absurd rfl hshape
          exact hl.isPlainText .tracks "title" (by decide) (htable ▸ hrow)
  · obtain ⟨tag, htag, rfl⟩ := List.mem_map.1 hv
    exact hl.isPlainText .tags "name" (by decide) (List.mem_filter.1 htag).1

/-- In a plain text patterns find what the search finds. -/
theorem exists_like_containing_iff {sites : List Value}
    (hsites : ∀ v ∈ sites, Store.IsPlainText v) (word : String) :
    (∃ v ∈ sites,
        (Condition.likeTruth v (Predicate.containing word).toValue).holds = true) ↔
      ∃ text, .text text ∈ sites ∧ Found word.toList text.toList := by
  constructor
  · rintro ⟨v, hv, hlike⟩
    obtain ⟨text, rfl, hfound⟩ := (Predicate.holds_containing_iff (hsites v hv) word).1 hlike
    exact ⟨text, hv, hfound⟩
  · rintro ⟨text, htext, hfound⟩
    exact ⟨_, htext, (Predicate.holds_containing_iff (hsites _ htext) word).2 ⟨text, rfl, hfound⟩⟩

theorem holds_like_creditText_iff {field key : List Char} (hnul : '\x00' ∉ field) (hkey : key ≠ [])
    (hcomma : Credits.separator ∉ key) :
    (Condition.likeTruth (.text (String.ofList (Credits.creditText field)))
        (Predicate.listing (String.ofList key)).toValue).holds = true ↔
      Credits.Credited key field := by
  show (Condition.likeTruth _ (.text _)).holds = true ↔ _
  rw [holds_likeTruth_text, String.toList_ofList, String.toList_ofList, String.toList_ofList]
  exact Credits.like_creditText hnul hkey hcomma

/-- In a plain field the store finds a key exactly if the field credits it. -/
theorem holds_like_listing_iff {album : Row} {field : String}
    (hfield : album.value "cv" = .text field) (hnul : '\x00' ∉ field.toList) {key : List Char}
    (hkey : key ≠ []) (hcomma : Credits.separator ∉ key) :
    (Condition.likeTruth (creditsValue album)
        (Predicate.listing (String.ofList key)).toValue).holds = true ↔
      Credits.Credited key field.toList := by
  have hvalue : creditsValue album =
      .text (String.ofList (Credits.creditText field.toList)) :=
    Predicate.eval_creditField hfield
  rw [hvalue]
  exact holds_like_creditText_iff hnul hkey hcomma

/-- Names without a key do not count. -/
theorem actors_iff (hs : s.Sound) (hl : s.Legible) (shape : Shape)
    (hrow : row ∈ s.rows shape.table) (spec : FilterSpec) :
    (spec.actorKeys = ∅ ∨ ∃ key ∈ spec.actorKeys,
        (Condition.likeTruth (creditsValue (shape.albumOf s row))
          (Predicate.listing key).toValue).holds = true) ↔
      (∀ name ∈ spec.voiceActors, Credits.key name.toList = []) ∨
        ∃ name ∈ spec.voiceActors, Credits.key name.toList ≠ [] ∧
          ∃ field, (shape.albumOf s row).value "cv" = .text field ∧
            Credits.Credited (Credits.key name.toList) field.toList := by
  obtain ⟨field, hfield, hnul⟩ :=
    hl.isPlainText .albums "cv" (by decide) (shape.albumOf_mem hs hrow)
  refine or_congr ?_ ?_
  · exact spec.actorKeys_eq_empty_iff
  · constructor
    · rintro ⟨key, hkey, hlike⟩
      obtain ⟨name, hname, hne, rfl⟩ := (spec.mem_actorKeys_iff key).1 hkey
      exact ⟨name, hname, hne, field, hfield, (holds_like_listing_iff hfield hnul hne
        (Credits.separator_not_mem_key _)).1 hlike⟩
    · rintro ⟨name, hname, hne, other, hother, hcredited⟩
      obtain rfl : other = field := Value.text.inj (hother.symm.trans hfield)
      exact ⟨_, (spec.mem_actorKeys_iff _).2 ⟨name, hname, hne, rfl⟩,
        (holds_like_listing_iff hfield hnul hne (Credits.separator_not_mem_key _)).2 hcredited⟩

/-- **The conditions of a query hold of a row exactly if the filter accepts it.** -/
theorem passes_iff (hs : s.Sound) (hl : s.Legible) (shape : Shape)
    (hrow : row ∈ s.rows shape.table) (spec : FilterSpec) :
    shape.passes s spec row = true ↔ spec.Accepts s shape row := by
  have htext := exists_like_containing_iff (isPlainText_of_mem_sites hs hl shape hrow)
  have hactors := actors_iff hs hl shape hrow spec
  rw [passes_iff_selects hs shape hrow]
  constructor
  · intro h
    exact ⟨h.album, fun word hword => (htext word).1 (h.text word hword), h.included, h.excluded,
      hactors.1 h.actors, h.circles, h.source⟩
  · intro h
    exact ⟨h.album, fun word hword => (htext word).2 (h.text word hword), h.included, h.excluded,
      hactors.2 h.actors, h.circles, h.source⟩

end Parts

/-! ## Items -/

namespace Shape

variable {s : Store}

/-- The column of a result that tells its items apart. -/
def idColumn : Shape → String
  | albums => "id"
  | headers => "album_id"
  | _ => "track_id"

/-- The number of the item that a row is about. -/
def itemId (shape : Shape) (row : Row) : Value :=
  match shape with
  | headers => row.value "album_id"
  | _ => row.value "id"

theorem present_albums (s : Store) (spec : FilterSpec) (row : Row) :
    albums.present s spec row = row := by
  show [Item.all "a"].flatMap (fun item => item.eval s.tables (albums.scope s spec.sort row)) = row
  rw [List.flatMap_singleton]
  show ((albums.scope s spec.sort row).lookup "a").getD [] = row
  rw [lookup_album]
  rfl

/-- The first column of a row. -/
theorem value_flatMap_named (tables : Tables) (scope : Scope) (source column as : String)
    (items : List Item) :
    Row.value ((named source column as :: items).flatMap fun item => item.eval tables scope) as =
      (Expr.col source column).eval scope := by
  rw [List.flatMap_cons]
  show Row.value ((as, (Expr.col source column).eval scope) :: _) as = _
  unfold Row.value Row.get?
  rw [List.lookup_cons_self, Option.getD_some]

theorem value_present (hs : s.Sound) (shape : Shape) (spec : FilterSpec) {row : Row}
    (hrow : row ∈ s.rows shape.table) :
    (shape.present s spec row).value shape.idColumn = shape.itemId row := by
  have htrack : ∀ shape : Shape, shape.tagScope.subjectName = "t" →
      (Expr.col "t" "id").eval (shape.scope s spec.sort row) = row.value "id" := by
    intro shape hname
    have hlookup := lookup_subject shape s spec.sort row
    rw [hname] at hlookup
    rw [eval_col, hlookup, Option.getD_some]
  cases shape with
  | albums =>
      rw [present_albums]
      rfl
  | tracks => exact (value_flatMap_named ..).trans (htrack tracks rfl)
  | albumTracks id => exact (value_flatMap_named ..).trans (htrack (albumTracks id) rfl)
  | headers =>
      have halbum := (value_flatMap_named s.tables (headers.scope s spec.sort row) "a" "id"
        "album_id" (albumColumns ++ coverPath :: albumCodes)).trans
          (eval_albumId_scope headers s spec.sort row)
      exact halbum.trans (hs.value_id_ownerOf hrow)

theorem kept_subset_matching (shape : Shape) (s : Store) (spec : FilterSpec) :
    shape.kept s spec ⊆ shape.matching s spec := by
  cases shape with
  | headers => exact (eraseDupsBy_sublist _ _).subset
  | albums | tracks | albumTracks => exact List.Subset.refl _

theorem same_ownerId_iff (hs : s.Sound) {track other : Row} (htrack : track ∈ s.rows .tracks)
    (hother : other ∈ s.rows .tracks) :
    ((s.ownerOf track).value "id").same ((s.ownerOf other).value "id") = true ↔
      track.value "album_id" = other.value "album_id" := by
  obtain ⟨i, hi, -⟩ := hs.exists_referred .tracks "album_id" .albums (by decide) htrack
  obtain ⟨j, hj, -⟩ := hs.exists_referred .tracks "album_id" .albums (by decide) hother
  rw [hs.value_id_ownerOf htrack, hs.value_id_ownerOf hother, hi, hj, same_integer]
  simp

/-- No item is kept twice. -/
theorem nodup_itemId_kept (hs : s.Sound) (shape : Shape) (spec : FilterSpec) :
    ((shape.kept s spec).map shape.itemId).Nodup := by
  have hnumbers : ∀ t : Table, t.numberColumn = "id" → ∀ p,
      (((s.rows t).filter p).map fun row => row.value "id").Nodup := by
    intro t hcolumn p
    have hnodup := hs.nodup_numbers t
    rw [hcolumn] at hnodup
    exact hnodup.sublist (List.filter_sublist.map _)
  cases shape with
  | albums => exact hnumbers .albums rfl _
  | tracks | albumTracks => exact hnumbers .tracks rfl _
  | headers =>
      refine nodup_map_eraseDupsBy fun track htrack other hother => ?_
      exact same_ownerId_iff hs (List.mem_filter.1 htrack).1 (List.mem_filter.1 hother).1

/-- Every item that matches is kept. -/
theorem mem_itemId_kept_iff (hs : s.Sound) (shape : Shape) (spec : FilterSpec) {id : Value} :
    id ∈ (shape.kept s spec).map shape.itemId ↔ id ∈ (shape.matching s spec).map shape.itemId := by
  constructor
  · intro h
    obtain ⟨row, hrow, heq⟩ := List.mem_map.1 h
    exact List.mem_map.2 ⟨row, kept_subset_matching shape s spec hrow, heq⟩
  · intro h
    cases shape with
    | albums | tracks | albumTracks => exact h
    | headers =>
        obtain ⟨row, hrow, rfl⟩ := List.mem_map.1 h
        obtain ⟨other, hother, heq⟩ := exists_mem_eraseDupsBy (f := headers.itemId)
          (fun track htrack other hother => same_ownerId_iff hs (List.mem_filter.1 htrack).1
            (List.mem_filter.1 hother).1) row hrow
        exact List.mem_map.2 ⟨other, hother, heq⟩

/-- A query gives the items that are kept, in some order. -/
theorem ids_rows_compile_perm (hs : s.Sound) (shape : Shape) (spec : FilterSpec) :
    (((LibraryQuery.compile shape spec).statement.rows s.tables).map
      fun row => row.value shape.idColumn).Perm ((shape.kept s spec).map shape.itemId) := by
  refine ((shape.rows_compile_perm hs spec).map _).trans (List.Perm.of_eq ?_)
  rw [List.map_map]
  refine List.map_congr_left fun row hrow => ?_
  have hmatching := shape.kept_subset_matching s spec hrow
  exact shape.value_present hs spec (List.mem_filter.1 hmatching).1

end Shape

/-! ## The result of a query -/

/-- The rows of a query for albums are the albums that match. -/
theorem mem_rows_compile_albums_iff {s : Store} (hs : s.Sound) (spec : FilterSpec) {row : Row} :
    row ∈ (LibraryQuery.compile .albums spec).statement.rows s.tables ↔
      row ∈ s.rows .albums ∧ Shape.albums.passes s spec row = true := by
  rw [(Shape.albums.rows_compile_perm hs spec).mem_iff, List.mem_map]
  simp only [Shape.present_albums, exists_eq_right]
  exact List.mem_filter

/-- **A query gives each item that the filter accepts once, and nothing else**: an album if it is
accepted, a track if it is accepted, a header if a track of the album is accepted.  Of albums it
gives whole rows. -/
theorem ids_rows_compile {s : Store} (hs : s.Sound) (hl : s.Legible) (shape : Shape)
    (spec : FilterSpec) :
    let rows := (LibraryQuery.compile shape spec).statement.rows s.tables
    (rows.map fun row => row.value shape.idColumn).Nodup ∧
      (∀ id, (∃ row ∈ rows, row.value shape.idColumn = id) ↔
        ∃ row ∈ s.rows shape.table, spec.Accepts s shape row ∧ shape.itemId row = id) ∧
      (shape = .albums → ∀ row ∈ rows, row ∈ s.rows .albums) := by
  have hids := shape.ids_rows_compile_perm hs spec
  refine ⟨?_, ?_, ?_⟩
  · exact hids.nodup_iff.2 (shape.nodup_itemId_kept hs spec)
  · intro id
    have hmem := hids.mem_iff (a := id)
    rw [shape.mem_itemId_kept_iff hs spec, List.mem_map, List.mem_map] at hmem
    rw [hmem]
    constructor
    · rintro ⟨row, hrow, hid⟩
      obtain ⟨hrow, hpasses⟩ := List.mem_filter.1 hrow
      exact ⟨row, hrow, (passes_iff hs hl shape hrow spec).1 hpasses, hid⟩
    · rintro ⟨row, hrow, haccepts, hid⟩
      exact ⟨row, List.mem_filter.2 ⟨hrow, (passes_iff hs hl shape hrow spec).2 haccepts⟩, hid⟩
  · rintro rfl row hrow
    exact ((mem_rows_compile_albums_iff hs spec).1 hrow).1

/-- A track that carries a tag twice, by itself and by its album, is found by it. -/
theorem ids_rows_compile_sample :
    (Store.sample "one").Sound ∧ (Store.sample "one").Legible ∧
      ∃ row ∈ (LibraryQuery.compile .tracks { includeTags := .ofList [⟨1⟩] }).statement.rows
        (Store.sample "one").tables, row.value "track_id" = .integer 1 := by
  have hs : (Store.sample "one").Sound := by decide
  have hl : (Store.sample "one").Legible := by decide
  let track := Store.newRow .tracks 1
    [("album_id", .integer 1), ("title", .text "one"), ("path", .text "one.mp3")]
  have hrow : track ∈ (Store.sample "one").rows .tracks := List.mem_singleton_self track
  have haccepts := (passes_iff hs hl .tracks hrow { includeTags := .ofList [⟨1⟩] }).1 (by decide)
  exact ⟨hs, hl, ((ids_rows_compile hs hl .tracks { includeTags := .ofList [⟨1⟩] }).2.1
    (.integer 1)).2 ⟨track, hrow, haccepts, by decide⟩⟩

/-- The store's search is not plain search up to ASCII case: a title that is U+FFFF is found by
U+FFFD and by itself before a U+0000, and every album credits the name that is a U+0000. -/
theorem not_plain_search :
    (Store.sample "\uffff").Sound ∧ (Store.sample "\uffff").Legible ∧
    ∃ album ∈ (Store.sample "\uffff").rows .albums,
      (∀ word ∈ ["\ufffd", "\uffff\x00z"],
        album ∈ (LibraryQuery.compile .albums { textQuery := some word }).statement.rows
          (Store.sample "\uffff").tables ∧
        ∀ text ∈ (Shape.albums.columnSites (Store.sample "\uffff") album ++
            Shape.albums.tagNames (Store.sample "\uffff") album).filterMap Value.text?,
          ¬ Text.foldCase word.toList <:+: Text.foldCase text.toList) ∧
      album ∈ (LibraryQuery.compile .albums
        { voiceActors := .ofList ["\x00"] }).statement.rows (Store.sample "\uffff").tables ∧
      ∀ field, album.value "cv" = .text field → ∀ name ∈ Credits.displayNames field.toList,
        Credits.key name ≠ Credits.key "\x00".toList := by
  have hs : (Store.sample "\uffff").Sound := by decide
  refine ⟨hs, by decide, _, List.mem_singleton_self _, ?_, ?_, ?_⟩
  · simp only [mem_rows_compile_albums_iff hs, ← Text.occurs_iff]
    decide
  · rw [mem_rows_compile_albums_iff hs]
    decide +kernel
  · intro field hfield
    obtain rfl : "Aoi Yuki, Hana" = field := Value.text.inj hfield
    decide

end AudioLibrary
