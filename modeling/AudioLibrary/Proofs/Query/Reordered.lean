import AudioLibrary.Proofs.Query.Position

/-!
# Stores with the same rows

The order in which a store keeps its rows is no concern of a result.  What the schema promises, what
a row is joined to, its tags, whether a filter selects it, where it stands and what is shown of it
depend on the rows that there are.
-/

namespace AudioLibrary

open AudioLibrary.Relational
open Std

/-- Whether two stores have the same rows, in whatever order each keeps them. -/
def Store.SameRows (s s' : Store) : Prop := ∀ t, (s.rows t).Perm (s'.rows t)

namespace Store.SameRows

variable {s s' : Store}

theorem symm (h : s.SameRows s') : s'.SameRows s := fun t => (h t).symm

theorem mem_iff (h : s.SameRows s') {t : Table} {row : Row} :
    row ∈ s.rows t ↔ row ∈ s'.rows t :=
  (h t).mem_iff

theorem mem_tables_iff (h : s.SameRows s') (name : String) (row : Row) :
    row ∈ s.tables name ↔ row ∈ s'.tables name := by
  unfold tables
  cases Table.ofName? name with
  | none => exact Iff.rfl
  | some t => exact h.mem_iff

theorem agree_comm (columns : List String) (row other : Row) :
    agree columns row other = agree columns other row := by
  have hequal : ∀ v w : Value, equal v w = equal w v := by
    intro v w
    unfold equal
    rw [Bool.or_comm, Value.same_comm]
  unfold agree
  exact congrArg columns.all (funext fun c => congrArg Truth.holds (hequal _ _))

theorem refersWell_eq (h : s.SameRows s') (t : Table) (row : Row) :
    s'.refersWell t row = s.refersWell t row := by
  have hcontains : ∀ target i, (s'.numbers target).contains i = (s.numbers target).contains i := by
    intro target i
    rw [Bool.eq_iff_iff, List.contains_iff_mem, List.contains_iff_mem]
    exact ((h target).filterMap _).mem_iff.symm
  unfold refersWell
  simp only [hcontains]

/-- The schema promises nothing about the order of rows. -/
theorem sound (h : s.SameRows s') (hs : s.Sound) : s'.Sound where
  numbered t row hrow := hs.numbered t row (h.mem_iff.2 hrow)
  required t row hrow := hs.required t row (h.mem_iff.2 hrow)
  unique t := by
    refine ((h t).pairwise_iff ?_).1 (hs.unique t)
    intro row other hagree k hk
    rw [agree_comm]
    exact hagree k hk
  referring t row hrow := by
    rw [h.refersWell_eq]
    exact hs.referring t row (h.mem_iff.2 hrow)
  comparable t row hrow := hs.comparable t row (h.mem_iff.2 hrow)

theorem byNumber_eq (h : s.SameRows s') (hs : s.Sound) (t : Table) (i : Int64) :
    s'.byNumber t (.integer i) = s.byNumber t (.integer i) := by
  ext row
  rw [(h.sound hs).byNumber_eq_some_iff, hs.byNumber_eq_some_iff, h.mem_iff]

theorem ownerOf_eq (h : s.SameRows s') (hs : s.Sound) {track : Row}
    (htrack : track ∈ s.rows .tracks) : s'.ownerOf track = s.ownerOf track := by
  obtain ⟨i, hi, -⟩ := hs.exists_referred .tracks "album_id" .albums (by decide) htrack
  rw [ownerOf, ownerOf, hi, h.byNumber_eq hs]

theorem lastPlayed_eq (h : s.SameRows s') (hs : s.Sound) {album : Row}
    (halbum : album ∈ s.rows .albums) : s'.lastPlayed album = s.lastPlayed album := by
  obtain ⟨i, hi⟩ := hs.numbered .albums album halbum
  change album.value "id" = .integer i at hi
  rw [lastPlayed, lastPlayed, statsOf, statsOf, hi, h.byNumber_eq hs]

theorem mem_albumTags_iff (h : s.SameRows s') (album : Row) (tag : Value) :
    tag ∈ s'.albumTags album ↔ tag ∈ s.albumTags album := by
  unfold albumTags
  simp only [List.mem_map, List.mem_filter, h.mem_iff]

theorem mem_tagsOf_iff (h : s.SameRows s') (hs : s.Sound) (tags : TagScope) {row : Row}
    (hrow : row ∈ s.rows tags.table) (tag : Value) :
    tag ∈ tags.tagsOf s' row ↔ tag ∈ tags.tagsOf s row := by
  cases tags with
  | album => exact h.mem_albumTags_iff row tag
  | track =>
      show tag ∈ s'.trackTags row ↔ tag ∈ s.trackTags row
      unfold trackTags
      rw [List.mem_append, List.mem_append, h.ownerOf_eq hs hrow, h.mem_albumTags_iff]
      simp only [List.mem_map, List.mem_filter, h.mem_iff]

end Store.SameRows

namespace Shape

variable {s s' : Store} {spec : FilterSpec}

theorem albumOf_eq (h : s.SameRows s') (hs : s.Sound) (shape : Shape) {row : Row}
    (hrow : row ∈ s.rows shape.table) : shape.albumOf s' row = shape.albumOf s row := by
  cases shape with
  | albums => rfl
  | tracks | headers | albumTracks => exact h.ownerOf_eq hs hrow

theorem mem_sites_iff (h : s.SameRows s') (hs : s.Sound) (shape : Shape) {row : Row}
    (hrow : row ∈ s.rows shape.table) (v : Value) :
    v ∈ shape.columnSites s' row ++ shape.tagNames s' row ↔
      v ∈ shape.columnSites s row ++ shape.tagNames s row := by
  have htags := h.mem_tagsOf_iff hs shape.tagScope (shape.table_tagScope ▸ hrow)
  unfold columnSites tagNames
  rw [albumOf_eq h hs shape hrow]
  simp only [List.mem_append, List.mem_map, List.mem_filter, htags, h.mem_iff]

/-- What a filter selects is no matter of the order of rows. -/
theorem selects_of_selects (h : s.SameRows s') (hs : s.Sound) (shape : Shape) {row : Row}
    (hrow : row ∈ s.rows shape.table) (hselects : spec.Selects s' shape row) :
    spec.Selects s shape row := by
  have halbum := albumOf_eq h hs shape hrow
  have hsites := mem_sites_iff h hs shape hrow
  have htags : ∀ id : TagId, Value.integer id.value ∈ shape.tagScope.tagsOf s' row ↔
      Value.integer id.value ∈ shape.tagScope.tagsOf s row :=
    fun id => h.mem_tagsOf_iff hs shape.tagScope (shape.table_tagScope ▸ hrow) _
  exact
    { album := hselects.album
      text := by simpa only [hsites] using hselects.text
      included := by simpa only [htags] using hselects.included
      excluded := by simpa only [htags] using hselects.excluded
      actors := halbum ▸ hselects.actors
      circles := halbum ▸ hselects.circles
      source := halbum ▸ hselects.source }

theorem selects_iff (h : s.SameRows s') (hs : s.Sound) (shape : Shape) {row : Row}
    (hrow : row ∈ s.rows shape.table) :
    spec.Selects s' shape row ↔ spec.Selects s shape row :=
  ⟨selects_of_selects h hs shape hrow,
    selects_of_selects h.symm (h.sound hs) shape (h.mem_iff.1 hrow)⟩

theorem gives_iff (h : s.SameRows s') (hs : s.Sound) (shape : Shape) {item : Row} :
    shape.Gives s' spec item ↔ shape.Gives s spec item := by
  have hitem : ∀ row ∈ s.rows shape.table, shape.itemOf s' row = shape.itemOf s row := by
    intro row hrow
    cases shape with
    | headers => exact h.ownerOf_eq hs hrow
    | albums | tracks | albumTracks => rfl
  unfold Gives
  refine exists_congr fun row => ?_
  rw [← h.mem_iff]
  refine and_congr_right fun hrow => ?_
  rw [hitem row hrow, selects_iff h hs shape hrow]

/-- Where an item stands is no matter of the order of rows. -/
theorem position_eq (h : s.SameRows s') (hs : s.Sound) (shape : Shape) (sort : SortOrder)
    {a b : Row} (ha : a ∈ s.rows shape.itemTable) (hb : b ∈ s.rows shape.itemTable) :
    shape.position s' sort a b = shape.position s sort a b := by
  have halbums : ∀ a ∈ s.rows .albums, ∀ b ∈ s.rows .albums,
      albumPosition s' sort a b = albumPosition s sort a b := by
    intro a ha b hb
    have hplayed : playedOrder s' a b = playedOrder s a b := by
      unfold playedOrder compareLex compareOn
      dsimp only
      rw [h.lastPlayed_eq hs ha, h.lastPlayed_eq hs hb]
    unfold albumPosition compareLex
    cases sort with
    | lastPlayedDesc => exact congrArg (Ordering.then · _) hplayed
    | addedDesc | titleAsc | rjAsc | circleAsc | cvAsc => rfl
  cases shape with
  | albums | headers => exact halbums a ha b hb
  | tracks | albumTracks =>
      show (albumPosition s' sort (s'.ownerOf a) (s'.ownerOf b)).then _ = _
      rw [h.ownerOf_eq hs ha, h.ownerOf_eq hs hb,
        halbums _ (hs.ownerOf_mem ha) _ (hs.ownerOf_mem hb)]
      rfl

/-- What is shown of an item is no matter of the order of rows. -/
theorem shown_eq (h : s.SameRows s') (hs : s.Sound) (shape : Shape) {item : Row}
    (hitem : item ∈ s.rows shape.itemTable) : shape.shown s' item = shape.shown s item := by
  have hscope : shape.shownScope s' item = shape.shownScope s item := by
    cases shape with
    | albums | headers => rfl
    | tracks | albumTracks =>
        show [("a", s'.ownerOf item), ("t", item)] = [("a", s.ownerOf item), ("t", item)]
        rw [h.ownerOf_eq hs hitem]
  unfold shown
  rw [hscope]
  exact List.flatMap_congr (eval_items_congr shape h.symm.mem_tables_iff rfl fun _ => rfl)

theorem pairwise_position (hs : s.Sound) (shape : Shape) (spec : FilterSpec) :
    (shape.itemsOf s spec).Pairwise fun a b => shape.position s spec.sort a b = .lt := by
  refine (pairwise_itemsOf hs shape spec).imp_of_mem fun ha hb hlt => ?_
  have ha := ((mem_itemsOf_iff hs shape).1 ha).mem hs
  have hb := ((mem_itemsOf_iff hs shape).1 hb).mem hs
  rw [← itemOrder_eq_position hs shape spec.sort ha hb]
  exact hlt

/-- The items of a result are no matter of the order of rows. -/
theorem itemsOf_eq (h : s.SameRows s') (hs : s.Sound) (shape : Shape) (spec : FilterSpec) :
    shape.itemsOf s' spec = shape.itemsOf s spec := by
  have hmem : ∀ item, item ∈ shape.itemsOf s' spec ↔ item ∈ shape.itemsOf s spec := by
    intro item
    rw [mem_itemsOf_iff (h.sound hs), mem_itemsOf_iff hs, gives_iff h hs]
  have hsorted : (shape.itemsOf s' spec).Pairwise fun a b =>
      shape.position s spec.sort a b = .lt := by
    refine (pairwise_position (h.sound hs) shape spec).imp_of_mem fun ha hb hlt => ?_
    have ha := ((mem_itemsOf_iff hs shape).1 ((hmem _).1 ha)).mem hs
    have hb := ((mem_itemsOf_iff hs shape).1 ((hmem _).1 hb)).mem hs
    rw [← position_eq h hs shape spec.sort ha hb]
    exact hlt
  -- a strictly sorted list is determined by its members
  exact hsorted.eq_of_mem_iff (pairwise_position hs shape spec) hmem

/-- Of albums that are sorted strictly, a query gives those that match. -/
theorem rows_albums_eq_of_sorted (hs : s.Sound) {spec : FilterSpec} {rows : List Row}
    (hperm : rows.Perm (albums.matching s spec))
    (hsorted : rows.Pairwise fun a b => albums.position s spec.sort a b = .lt) :
    (LibraryQuery.compile .albums spec).statement.rows s.tables = rows := by
  rw [rows_albums_eq_itemsOf hs]
  refine (pairwise_position hs albums spec).eq_of_mem_iff hsorted fun album => ?_
  rw [itemsOf_eq_mergeSort (by simp), List.mem_mergeSort, hperm.mem_iff]

theorem rows_eq_of_sameRows (h : s.SameRows s') (hs : s.Sound) (shape : Shape)
    (spec : FilterSpec) :
    (LibraryQuery.compile shape spec).statement.rows s'.tables =
      (LibraryQuery.compile shape spec).statement.rows s.tables := by
  rw [rows_eq_map_shown (h.sound hs), rows_eq_map_shown hs, itemsOf_eq h hs]
  refine List.map_congr_left fun item hitem => ?_
  exact shown_eq h hs shape (((mem_itemsOf_iff hs shape).1 hitem).mem hs)

/-- A sort changes nothing about what a filter selects. -/
theorem selects_withSort_iff (shape : Shape) (sort : SortOrder) {row : Row} :
    (spec.withSort sort).Selects s shape row ↔ spec.Selects s shape row :=
  ⟨fun h => ⟨h.album, h.text, h.included, h.excluded, h.actors, h.circles, h.source⟩,
    fun h => ⟨h.album, h.text, h.included, h.excluded, h.actors, h.circles, h.source⟩⟩

/-- Another sort gives the same rows in another order. -/
theorem rows_withSort_perm (hs : s.Sound) (shape : Shape) (spec : FilterSpec) (sort : SortOrder) :
    ((LibraryQuery.compile shape (spec.withSort sort)).statement.rows s.tables).Perm
      ((LibraryQuery.compile shape spec).statement.rows s.tables) := by
  have hitems : (shape.itemsOf s (spec.withSort sort)).Perm (shape.itemsOf s spec) := by
    refine (List.perm_ext_iff_of_nodup (nodup_itemsOf hs shape _) (nodup_itemsOf hs shape _)).2 ?_
    intro item
    rw [mem_itemsOf_iff hs, mem_itemsOf_iff hs]
    unfold Gives
    simp only [selects_withSort_iff]
  rw [rows_eq_map_shown hs, rows_eq_map_shown hs]
  exact hitems.map _

end Shape

/-! ## The order of a result -/

/-- How a sort compares texts. -/
theorem Shape.textOrder_texts {column : String} {a b : Row} {x y : String}
    (ha : a.value column = .text x) (hb : b.value column = .text y) :
    textOrder column a b =
      compareLex (compareOn Text.foldedHead) (compareOn Text.lengthPastNul) x.toList y.toList := by
  rw [textOrder, ha, hb, Value.keyOrder_text, ← Text.compareIgnoringCase_eq]
  rfl

/-- **The order of a result is a function of the data.**  Its items stand in strictly increasing
position, and no two rows of a table are tied; the order in which the store keeps its rows changes
nothing; and another sort gives the same rows in another order, as many of them as before.

Texts are compared letter case aside, up to a U+0000 that both have at one place: what follows it
counts by its length alone. -/
theorem rows_in_position {s s' : Store} (hs : s.Sound) (hsame : s.SameRows s') (shape : Shape)
    (spec : FilterSpec) (sort : SortOrder) :
    let query (spec : FilterSpec) := LibraryQuery.compile shape spec
    let rows (s : Store) (spec : FilterSpec) := (query spec).statement.rows s.tables
    (∃ items ⊆ s.rows shape.itemTable, rows s spec = items.map (shape.shown s) ∧
      ((rows s spec).map fun row => row.value shape.idColumn) =
        items.map (fun item => item.value "id") ∧
      items.Pairwise fun a b => shape.position s spec.sort a b = .lt) ∧
    TransCmp (shape.position s spec.sort) ∧
    (∀ a ∈ s.rows shape.itemTable, ∀ b ∈ s.rows shape.itemTable,
      shape.position s spec.sort a b = .eq → a = b) ∧
    rows s' spec = rows s spec ∧
    (rows s (spec.withSort sort)).Perm (rows s spec) ∧
    (query (spec.withSort sort)).count.statement.rows s.tables =
      (query spec).count.statement.rows s.tables ∧
    ∀ column a b x y, a.value column = .text x → b.value column = .text y →
      Shape.textOrder column a b =
          compareLex (compareOn Text.foldedHead) (compareOn Text.lengthPastNul)
            x.toList y.toList ∧
        ('\x00' ∉ x.toList → '\x00' ∉ y.toList →
          Shape.textOrder column a b =
            compare (Text.foldCase x.toList) (Text.foldCase y.toList)) := by
  intro query rows
  have hrows : rows s spec = (shape.itemsOf s spec).map (shape.shown s) :=
    Shape.rows_eq_map_shown hs shape spec
  have hperm : (rows s (spec.withSort sort)).Perm (rows s spec) :=
    Shape.rows_withSort_perm hs shape spec sort
  refine ⟨⟨shape.itemsOf s spec, ?_, hrows, ?_, Shape.pairwise_position hs shape spec⟩,
    inferInstance, ?_, Shape.rows_eq_of_sameRows hsame hs shape spec, hperm, ?_, ?_⟩
  · intro item hitem
    exact ((Shape.mem_itemsOf_iff hs shape).1 hitem).mem hs
  · rw [hrows, List.map_map]
    exact List.map_congr_left fun item _ => shape.value_shown s item
  · intro a ha b hb htied
    rw [← Shape.itemOrder_eq_position hs shape spec.sort ha hb] at htied
    exact Shape.eq_of_itemOrder_eq hs shape ha hb htied
  · show [[(_, Value.integer (.ofNat (rows s (spec.withSort sort)).length))]] = _
    rw [hperm.length_eq]
    rfl
  · intro column a b x y ha hb
    refine ⟨Shape.textOrder_texts ha hb, fun hx hy => ?_⟩
    rw [Shape.textOrder, ha, hb, Value.keyOrder_text]
    exact Text.compareIgnoringCase_of_nul_not_mem hx hy

/-- A store that keeps its rows the other way round. -/
def Store.reversed (s : Store) : Store := { s with rows := fun t => (s.rows t).reverse }

/-- Two albums with one title stand newest first, however the store keeps them. -/
theorem rows_in_position_reversed :
    let s := Store.ofAlbums [[], []]
    let rows (s : Store) :=
      (LibraryQuery.compile .albums { sort := .titleAsc }).statement.rows s.tables
    s.Sound ∧ s.SameRows s.reversed ∧ rows s.reversed = rows s ∧
      (rows s).map (fun row => row.value "id") = [.integer 2, .integer 1] := by
  intro s rows
  have hs : s.Sound := by decide
  have hsame : s.SameRows s.reversed := fun t => (List.reverse_perm (s.rows t)).symm
  have hrows : rows s = s.reversed.rows .albums :=
    Shape.rows_albums_eq_of_sorted hs (by decide +kernel) (by decide +kernel)
  refine ⟨hs, hsame, (rows_in_position hs hsame .albums _ .addedDesc).2.2.2.1, ?_⟩
  rw [hrows]
  decide

/-- Past a U+0000 letters do not count: of two titles that differ there the greater stands first. -/
theorem not_letters_past_nul :
    let s := Store.ofAlbums [[("title", .text "a\x00b")], [("title", .text "a\x00c")]]
    s.Sound ∧
      compare (Text.foldCase "a\x00b".toList) (Text.foldCase "a\x00c".toList) = .lt ∧
      ((LibraryQuery.compile .albums { sort := .titleAsc }).statement.rows s.tables).map
        (fun row => row.value "title") = [.text "a\x00c", .text "a\x00b"] := by
  intro s
  have hs : s.Sound := by decide
  have hrows : (LibraryQuery.compile .albums { sort := .titleAsc }).statement.rows s.tables =
      s.reversed.rows .albums :=
    Shape.rows_albums_eq_of_sorted hs (by decide +kernel) (by decide +kernel)
  refine ⟨hs, by decide, ?_⟩
  rw [hrows]
  decide

end AudioLibrary
