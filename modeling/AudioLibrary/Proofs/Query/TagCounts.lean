import AudioLibrary.Proofs.Query.Answers
import AudioLibrary.Proofs.Query.Reordered
import AudioLibrary.Query.Listing

/-!
# Tags and the albums that carry them

The listing of tags counts the different albums of the pairs that name a tag; a filter with the tag
selects the albums that such a pair names.  In a sound store either number is that of the albums
that carry the tag, `countDistinct_pairedAlbums` and `length_rows_ofTag`.

The listing shows the tags of the store in the order of `tagPosition`, which has no ties, so that
their order in the store does not matter: `rows_tagsWithCounts` and `rows_tagsWithCounts_eq`.
-/

namespace AudioLibrary

open AudioLibrary.Relational
open Std

/-- Values that are tied are equal, nothing aside. -/
theorem Relational.equal_of_compareBy_eq {v w : Value} (hv : v ≠ .null) (hw : w ≠ .null)
    (h : Value.compareBy .binary v w = .eq) : equal v w = some true := by
  have hvnull : v.isNull = false := by
    cases v <;> first | rfl | exact absurd rfl hv
  have hwnull : w.isNull = false := by
    cases w <;> first | rfl | exact absurd rfl hw
  unfold equal Value.same
  rw [hvnull, hwnull, h]
  rfl

namespace Store

variable {s : Store} {tag : Row}

/-- Rows that agree in a key are the same. -/
theorem Sound.eq_of_agree (hs : s.Sound) {t : Table} {k : UniqueKey} (hk : k ∈ t.keys)
    {row other : Row} (hrow : row ∈ s.rows t) (hother : other ∈ s.rows t)
    (hagree : agree k.columns row other = true) : row = other := by
  by_contra hne
  have : Std.Symm fun row other => ∀ k ∈ t.keys, agree k.columns row other = false :=
    ⟨fun a b hab k hk => (SameRows.agree_comm k.columns b a).trans (hab k hk)⟩
  have hdiffer := (hs.unique t).forall hrow hother hne k hk
  rw [hagree] at hdiffer
  cases hdiffer

/-! ## Counting albums -/

/-- The albums that carry a tag. -/
def albumsTagged (s : Store) (tag : Row) : List Row :=
  (s.rows .albums).filter fun album => tag.value "id" ∈ s.albumTags album

/-- The number of albums that carry a tag, as the engine counts. -/
def albumCount (s : Store) (tag : Row) : Int64 := .ofNat (s.albumsTagged tag).length

/-- The albums that the pairs of a tag name. -/
def pairedAlbums (s : Store) (tag : Row) : List Value :=
  ((s.rows .albumTags).filter fun pair => pair.value "tag_id" = tag.value "id").map
    fun pair => pair.value "album_id"

theorem allNumbers_pairedAlbums (hs : s.Sound) (tag : Row) : AllNumbers (s.pairedAlbums tag) := by
  intro v hv
  obtain ⟨pair, hpair, rfl⟩ := List.mem_map.1 hv
  obtain ⟨i, hi, -⟩ :=
    hs.exists_referred .albumTags "album_id" .albums (by decide) (List.mem_filter.1 hpair).1
  exact ⟨i, hi⟩

/-- The pairs of a tag name the albums that carry it. -/
theorem mem_pairedAlbums_iff (hs : s.Sound) {v : Value} :
    v ∈ s.pairedAlbums tag ↔ ∃ album ∈ s.albumsTagged tag, album.value "id" = v := by
  unfold pairedAlbums albumsTagged albumTags
  simp only [List.mem_map, List.mem_filter, decide_eq_true_eq]
  constructor
  · rintro ⟨pair, ⟨hpair, htag⟩, rfl⟩
    obtain ⟨i, hi, album, halbum, hid⟩ :=
      hs.exists_referred .albumTags "album_id" .albums (by decide) hpair
    have hsame : album.value "id" = pair.value "album_id" := hid.trans hi.symm
    exact ⟨album, ⟨halbum, pair, ⟨hpair, hsame.symm⟩, htag⟩, hsame⟩
  · rintro ⟨album, ⟨-, pair, ⟨hpair, hsame⟩, htag⟩, rfl⟩
    exact ⟨pair, ⟨hpair, htag⟩, hsame⟩

/-- The different albums that the pairs of a tag name are as many as carry it. -/
theorem countDistinct_pairedAlbums (hs : s.Sound) (tag : Row) :
    countDistinct (s.pairedAlbums tag) = (s.albumsTagged tag).length := by
  have hnumbers := allNumbers_pairedAlbums hs tag
  have hnodup : ((s.albumsTagged tag).map fun album => album.value "id").Nodup :=
    (hs.nodup_numbers .albums).sublist (List.filter_sublist.map _)
  have hperm : (distinctValues (s.pairedAlbums tag)).Perm
      ((s.albumsTagged tag).map fun album => album.value "id") := by
    refine (List.perm_ext_iff_of_nodup hnumbers.nodup_distinctValues hnodup).2 fun v => ?_
    rw [hnumbers.mem_distinctValues, mem_pairedAlbums_iff hs, List.mem_map]
  rw [hnumbers.countDistinct_eq, hperm.length_eq, List.length_map]

end Store

/-! ## The rows of the listing -/

namespace Listing

variable {s : Store} {tag : Row}

/-- The pairs of a tag. -/
def pairsOfTag : Subselect :=
  { item := .col "at" "album_id"
    source := .ofTable "album_tag" (some "at")
    conditions := [.equals (.col "at" "tag_id") (.col "t" "id")] }

/-- The keys of the listing: the number of albums, greatest first, then the name. -/
def tagKeys : List OrderKey :=
  [{ term := .expr (.column none "album_count"), direction := some .descending },
    { term := .expr (.col "t" "name_normalized"), direction := some .ascending }]

/-- The select of the listing. -/
def tagSelect : Select :=
  { items :=
      [Shape.named "t" "id" "id", Shape.named "t" "name" "name",
        Shape.named "t" "name_normalized" "name_normalized",
        .one (.countDistinct pairsOfTag) (some "album_count")]
    source := .ofTable "tags" (some "t")
    orderBy := tagKeys }

/-- What is shown of a tag. -/
def tagRow (s : Store) (tag : Row) : Row :=
  [("id", tag.value "id"), ("name", tag.value "name"),
    ("name_normalized", tag.value "name_normalized"), ("album_count", .integer (s.albumCount tag))]

/-- The count looks at the pairs of the tag. -/
theorem values_pairsOfTag (hs : s.Sound) (htag : tag ∈ s.rows .tags) :
    ((pairsOfTag.scopes s.tables [("t", tag)]).map fun inner => pairsOfTag.item.eval inner) =
      s.pairedAlbums tag := by
  obtain ⟨i, hi⟩ := hs.numbered .tags tag htag
  change tag.value "id" = .integer i at hi
  have hsource : pairsOfTag.source.scopes s.tables (Union.rows s.tables) [("t", tag)] =
      (s.rows .albumTags).map fun pair => [("at", pair), ("t", tag)] :=
    congrArg (List.map fun pair => [("at", pair), ("t", tag)]) (Store.tables_name s .albumTags)
  have hpairs : pairsOfTag.scopes s.tables [("t", tag)] =
      ((s.rows .albumTags).filter fun pair => pair.value "tag_id" = tag.value "id").map
        fun pair => [("at", pair), ("t", tag)] := by
    unfold Subselect.scopes
    rw [hsource, List.filter_map]
    refine congrArg (List.map _) (List.filter_congr fun pair hpair => ?_)
    obtain ⟨j, hj, -⟩ := hs.exists_referred .albumTags "tag_id" .tags (by decide) hpair
    have hcolumns : Condition.eval Empty.elim [("at", pair), ("t", tag)]
        (.equals (.col "at" "tag_id") (.col "t" "id")) =
          equal (pair.value "tag_id") (tag.value "id") := by
      rw [Condition.eval, eval_col, eval_col]
      rfl
    have hequal : Condition.allHold Empty.elim [("at", pair), ("t", tag)] pairsOfTag.conditions =
        (equal (pair.value "tag_id") (tag.value "id")).holds := by
      unfold Condition.allHold
      show ((Condition.eval _ _ _).holds && true) = _
      rw [hcolumns, Bool.and_true]
    rw [Function.comp_apply, hequal, hi, hj]
    simp
  rw [hpairs, List.map_map]
  refine List.map_congr_left fun pair _ => ?_
  show (Expr.col "at" "album_id").eval _ = _
  rw [eval_col]
  rfl

theorem project_tagSelect (hs : s.Sound) (htag : tag ∈ s.rows .tags) :
    tagSelect.project s.tables [("t", tag)] = tagRow s tag := by
  have hcount : (Term.countDistinct pairsOfTag).eval s.tables [("t", tag)] =
      .integer (s.albumCount tag) := by
    rw [Term.eval, values_pairsOfTag hs htag, Store.countDistinct_pairedAlbums hs]
    rfl
  have hcolumn : ∀ column, (Term.expr (.col "t" column)).eval s.tables [("t", tag)] =
      tag.value column := by
    intro column
    rw [Term.eval, eval_col]
    rfl
  show [("id", _), ("name", _), ("name_normalized", _), ("album_count", _)] = _
  rw [hcount, hcolumn, hcolumn, hcolumn]
  rfl

/-- Where a tag stands: by the number of its albums, greatest first, then by its name. -/
def tagPosition (s : Store) : Row → Row → Ordering :=
  compareLex (fun a b => compare (s.albumCount b) (s.albumCount a))
    fun a b => Value.keyOrder .binary (a.value "name_normalized") (b.value "name_normalized")

instance (s : Store) : TransCmp (tagPosition s) := by
  unfold tagPosition
  infer_instance

/-- The tags in their order. -/
def listedTags (s : Store) : List Row :=
  (s.rows .tags).mergeSort fun a b => (tagPosition s a b).isLE

theorem compareKeys_tagSelect (hs : s.Sound) {a b : Row} (ha : a ∈ s.rows .tags)
    (hb : b ∈ s.rows .tags) :
    compareKeys tagKeys (tagSelect.keyValues s.tables [("t", a)] (tagRow s a))
      (tagSelect.keyValues s.tables [("t", b)] (tagRow s b)) = tagPosition s a b := by
  have hvalues : ∀ tag, tagSelect.keyValues s.tables [("t", tag)] (tagRow s tag) =
      [.integer (s.albumCount tag), tag.value "name_normalized"] := fun _ => rfl
  have hcomparable : ∀ tag ∈ s.rows .tags, (tag.value "name_normalized").equalsItself = true :=
    fun tag htag => hs.comparable .tags tag htag (.text "name_normalized") (by decide)
  rw [hvalues, hvalues]
  show (compare _ _).then ((Value.compareBy _ _ _).then .eq) = _
  rw [Ordering.then_eq, Value.compareBy_eq_keyOrder .binary (hcomparable a ha) (hcomparable b hb)]
  rfl

/-- Tags that are tied have one name and are the same. -/
theorem eq_of_tagPosition_eq (hs : s.Sound) {a b : Row} (ha : a ∈ s.rows .tags)
    (hb : b ∈ s.rows .tags) (h : tagPosition s a b = .eq) : a = b := by
  have hname : ∀ tag ∈ s.rows .tags, (tag.value "name_normalized").equalsItself = true ∧
      tag.value "name_normalized" ≠ .null := fun tag htag =>
    ⟨hs.comparable .tags tag htag (.text "name_normalized") (by decide),
      hs.required .tags tag htag (.text "name_normalized") (by decide) rfl⟩
  have htied : Value.compareBy .binary (a.value "name_normalized") (b.value "name_normalized") =
      .eq := by
    rw [Value.compareBy_eq_keyOrder .binary (hname a ha).1 (hname b hb).1]
    exact (Ordering.then_eq_eq.1 h).2
  refine hs.eq_of_agree (List.mem_cons_of_mem _ List.mem_cons_self) ha hb ?_
  have hequal := equal_of_compareBy_eq (hname a ha).2 (hname b hb).2 htied
  unfold Store.agree
  rw [List.all_cons, hequal]
  rfl

theorem listedTags_perm (s : Store) : (listedTags s).Perm (s.rows .tags) :=
  List.mergeSort_perm _ _

theorem pairwise_listedTags (hs : s.Sound) :
    (listedTags s).Pairwise fun a b => tagPosition s a b = .lt := by
  refine pairwise_lt_of_sorted (pairwise_mergeSort_of_eq fun a _ b _ => rfl) ?_ ?_
  · exact (listedTags_perm s).nodup_iff.2 (hs.nodup_rows .tags)
  · intro a ha b hb
    exact eq_of_tagPosition_eq hs ((listedTags_perm s).mem_iff.1 ha)
      ((listedTags_perm s).mem_iff.1 hb)

/-- **The listing shows the tags in their order.** -/
theorem rows_tagsWithCounts (hs : s.Sound) :
    tagsWithCounts.rows s.tables = (listedTags s).map (tagRow s) := by
  have hscopes : tagSelect.scopes s.tables = (s.rows .tags).map fun tag => [("t", tag)] := by
    have hsource : tagSelect.scopes s.tables = (s.tables "tags").map fun tag => [("t", tag)] :=
      List.filter_eq_self.2 fun _ _ => rfl
    rw [hsource, show s.tables "tags" = s.rows .tags from Store.tables_name s .tags]
  show tagSelect.rows s.tables = _
  have hsorted : ((s.rows .tags).mergeSort fun a b =>
      compareKeys tagKeys
        (tagSelect.keyValues s.tables [("t", a)] (tagSelect.project s.tables [("t", a)]))
        (tagSelect.keyValues s.tables [("t", b)] (tagSelect.project s.tables [("t", b)])) !=
          .gt) = listedTags s := by
    refine mergeSort_congr fun a ha b hb => ?_
    rw [project_tagSelect hs ha, project_tagSelect hs hb, compareKeys_tagSelect hs ha hb,
      bne_gt_eq_isLE]
  rw [Select.rows_eq_map_mergeSort rfl hscopes]
  refine (congrArg (List.map _) hsorted).trans (List.map_congr_left fun tag htag => ?_)
  exact project_tagSelect hs ((listedTags_perm s).mem_iff.1 htag)

/-! ## Stores with the same rows -/

section SameRows

variable {s' : Store}

theorem albumCount_eq (h : s.SameRows s') (tag : Row) : s'.albumCount tag = s.albumCount tag := by
  have htagged : (s'.albumsTagged tag).Perm (s.albumsTagged tag) := by
    have hcarries : ∀ album : Row, decide (tag.value "id" ∈ s'.albumTags album) =
        decide (tag.value "id" ∈ s.albumTags album) := by
      intro album
      simp only [h.mem_albumTags_iff]
    unfold Store.albumsTagged
    simp only [hcarries]
    exact (h .albums).symm.filter _
  rw [Store.albumCount, Store.albumCount, htagged.length_eq]

/-- In what order a store keeps its rows is no matter for the listing. -/
theorem rows_tagsWithCounts_eq (h : s.SameRows s') (hs : s.Sound) :
    tagsWithCounts.rows s'.tables = tagsWithCounts.rows s.tables := by
  have hposition : tagPosition s' = tagPosition s := by
    unfold tagPosition
    simp only [albumCount_eq h]
  have hlisted : listedTags s' = listedTags s := by
    have hsorted : (listedTags s').Pairwise fun a b => tagPosition s a b = .lt := by
      rw [← hposition]
      exact pairwise_listedTags (h.sound hs)
    refine hsorted.eq_of_mem_iff (pairwise_listedTags hs) fun tag => ?_
    rw [(listedTags_perm s').mem_iff, (listedTags_perm s).mem_iff, h.mem_iff]
  have hshown : tagRow s' = tagRow s := by
    funext tag
    rw [tagRow, tagRow, albumCount_eq h]
  rw [rows_tagsWithCounts (h.sound hs), rows_tagsWithCounts hs, hlisted, hshown]

end SameRows

end Listing

/-! ## Reading the listing -/

namespace TagWithCount

/-- A tag is read from a row that has its numbers and texts. -/
theorem ofRow_eq_ok_iff {row : Row} {tag : TagWithCount} :
    ofRow row = .ok tag ↔
      row.value "id" = .integer tag.id.value ∧ row.value "name" = .text tag.name ∧
        row.value "name_normalized" = .text tag.nameNormalized ∧
        row.value "album_count" = .integer tag.albumCount := by
  rw [← Row.requireInteger_eq_ok_iff, ← Row.requireText_eq_ok_iff, ← Row.requireText_eq_ok_iff,
    ← Row.requireInteger_eq_ok_iff]
  unfold ofRow
  cases row.requireInteger "id" with
  | error e => simp [bind, Except.bind]
  | ok id =>
      cases row.requireText "name" with
      | error e => simp [bind, Except.bind]
      | ok name =>
          cases row.requireText "name_normalized" with
          | error e => simp [bind, Except.bind]
          | ok normalized =>
              cases row.requireInteger "album_count" with
              | error e => simp [bind, Except.bind]
              | ok count =>
                  rcases tag with ⟨⟨number⟩, tagName, tagNormalized, albumCount⟩
                  simp [bind, Except.bind, pure, Except.pure]

/-- Whether a tag stands before another: more albums carry it, or as many and its name is less. -/
def Precedes (a b : TagWithCount) : Prop :=
  b.albumCount < a.albumCount ∨ b.albumCount = a.albumCount ∧ a.nameNormalized < b.nameNormalized

/-- The order of the listing. -/
def position : TagWithCount → TagWithCount → Ordering :=
  compareLex (fun a b => compare b.albumCount a.albumCount) (compareOn nameNormalized)

instance : TransCmp position := by
  unfold position
  infer_instance

theorem precedes_iff {a b : TagWithCount} : a.Precedes b ↔ position a b = .lt := by
  unfold Precedes position compareLex compareOn
  rw [Ordering.then_eq_lt, Std.compare_eq_lt, Std.compare_eq_iff_eq, compare_lt_iff_lt]

instance : IsStrictOrder TagWithCount Precedes where
  irrefl a h := by
    rw [precedes_iff, @ReflCmp.compare_self _ position _ a] at h
    cases h
  trans a b c hab hbc := by
    rw [precedes_iff] at hab hbc ⊢
    exact TransCmp.lt_trans hab hbc

/-- Tags that are listed are read in their order. -/
theorem precedes_of_tagPosition {s : Store} {row other : Row} {a b : TagWithCount}
    (ha : ofRow (Listing.tagRow s row) = .ok a) (hb : ofRow (Listing.tagRow s other) = .ok b)
    (h : Listing.tagPosition s row other = .lt) : a.Precedes b := by
  obtain ⟨-, -, haname, hacount⟩ := ofRow_eq_ok_iff.1 ha
  obtain ⟨-, -, hbname, hbcount⟩ := ofRow_eq_ok_iff.1 hb
  change row.value "name_normalized" = _ at haname
  change other.value "name_normalized" = _ at hbname
  change Value.integer (s.albumCount row) = _ at hacount
  change Value.integer (s.albumCount other) = _ at hbcount
  unfold Listing.tagPosition compareLex at h
  dsimp only at h
  rw [haname, hbname, Value.keyOrder_text, Value.integer.inj hacount,
    Value.integer.inj hbcount] at h
  exact precedes_iff.2 h

end TagWithCount

/-! ## The albums of a tag -/

theorem FilterSpec.selects_withIncludeTags_iff {s : Store} {album : Row} (tag : TagId) :
    (({} : FilterSpec).withIncludeTags [tag]).Selects s .albums album ↔
      .integer tag.value ∈ s.albumTags album := by
  have hmem : ∀ id, id ∈ (({} : FilterSpec).withIncludeTags [tag]).includeTags ↔ id = tag := by
    intro id
    show id ∈ SortedSet.ofList [tag] ↔ _
    rw [SortedSet.mem_ofList, List.mem_singleton]
  constructor
  · intro h
    exact h.included tag ((hmem tag).2 rfl)
  · intro htag
    exact
      { album := nofun
        text := nofun
        included := fun id hid => (hmem id).1 hid ▸ htag
        excluded := fun id hid => absurd hid (SortedSet.not_mem_empty id)
        actors := Or.inl ((actorKeys_eq_empty_iff _).2 fun name hname =>
          absurd hname (SortedSet.not_mem_empty name))
        circles := Or.inl rfl
        source := nofun }

/-- The query for the albums of a tag. -/
def LibraryQuery.ofTag (tag : TagId) : LibraryQuery :=
  .compile .albums (({} : FilterSpec).withIncludeTags [tag])

section Database

variable {session : Session Database} {size : UInt32} {request : PageRequest} {tag : TagId}

/-- The albums of a tag are as many as carry it. -/
theorem LibraryQuery.length_rows_ofTag {s : Store} (hs : s.Sound) {row : Row}
    (hid : row.value "id" = .integer tag.value) :
    ((LibraryQuery.ofTag tag).statement.rows s.tables).length = (s.albumsTagged row).length := by
  have hperm := Shape.rows_albums_perm hs fun album _ =>
    FilterSpec.selects_withIncludeTags_iff tag
  unfold Store.albumsTagged
  rw [hid]
  exact hperm.length_eq

/-- A page of the albums of a tag tells their number, as the listing does. -/
theorem Database.run_queryAlbums_ofTag (hopen : session.state.closed = false)
    (hs : session.state.store.Sound) {row : Row} (hid : row.value "id" = .integer tag.value)
    (hpage : request.pageSize ≠ 0) :
    ((LibraryService.queryAlbums ⟨adapter, size⟩
      (({} : FilterSpec).withIncludeTags [tag]) request).run session).1 =
        ((((LibraryQuery.ofTag tag).page request).statement.rows
          session.state.store.tables).mapM Album.ofRow).map fun albums =>
            LibraryService.pageOf request
              (.ofNat (session.state.store.albumCount row).toInt.toNat, albums) := by
  have hshort : (LibraryQuery.ofTag tag).statement.meetsLongPattern session.state.store.tables =
      false := LibraryQuery.meetsLongPattern_eq_false fun p hp scope => by
    obtain rfl : p = .allTags .album [tag] := List.mem_singleton.1 hp
    rfl
  rw [Store.albumCount, ← LibraryQuery.length_rows_ofTag hs hid]
  exact congrArg Prod.fst (outcome_queryAlbums_of_open hopen rfl (fun _ => rfl) hshort hpage)

/-- Where text columns hold texts, every page of the albums of a tag can be read. -/
theorem Database.exists_page_ofTag (hs : session.state.store.Sound)
    (ht : session.state.store.Textual) :
    ∃ albums, (((LibraryQuery.ofTag tag).page request).statement.rows
      session.state.store.tables).mapM Album.ofRow = .ok albums := by
  obtain ⟨albums, halbums⟩ := Shape.exists_albums hs ht (({} : FilterSpec).withIncludeTags [tag])
  refine ⟨(albums.drop request.offset.toNat).take request.limit.toNat, ?_⟩
  rw [mapM_eq_ok_iff] at halbums ⊢
  show List.map _ ((List.drop _ ((LibraryQuery.ofTag tag).statement.rows _)).take _) = _
  rw [List.map_take, List.map_drop, List.map_take, List.map_drop, LibraryQuery.ofTag, halbums]

/-- On an open database tags are listed with their numbers of albums. -/
theorem Database.run_tags (hopen : session.state.closed = false) (size : UInt32) :
    ((LibraryService.tags ⟨adapter, size⟩).run session).1 =
      (Listing.tagsWithCounts.rows session.state.store.tables).mapM TagWithCount.ofRow := by
  have hshort : Listing.tagsWithCounts.meetsLongPattern session.state.store.tables = false :=
    Select.meetsLongPattern_eq_false fun c hc => absurd hc List.not_mem_nil
  exact congrArg Prod.fst (outcome_fetchAll_of_open hopen (Statement.run_eq_ok rfl hshort)
    TagWithCount.ofRow)

end Database

section Listed

variable {s : Store} {tags : List TagWithCount}

/-- The listing reads the tags in their order. -/
theorem map_ofRow_listedTags (hs : s.Sound)
    (hread : (Listing.tagsWithCounts.rows s.tables).mapM TagWithCount.ofRow = .ok tags) :
    (Listing.listedTags s).map (fun row => TagWithCount.ofRow (Listing.tagRow s row)) =
      tags.map .ok := by
  rw [mapM_eq_ok_iff, Listing.rows_tagsWithCounts hs, List.map_map] at hread
  exact hread

/-- Every tag that is read is one of the store. -/
theorem exists_row_of_mem_tags (hs : s.Sound)
    (hread : (Listing.tagsWithCounts.rows s.tables).mapM TagWithCount.ofRow = .ok tags)
    {tag : TagWithCount} (htag : tag ∈ tags) :
    ∃ row ∈ s.rows .tags, row.value "id" = .integer tag.id.value ∧
      tag.albumCount = s.albumCount row := by
  have hmem : (.ok tag : Except LibraryError TagWithCount) ∈ tags.map .ok :=
    List.mem_map_of_mem htag
  rw [← map_ofRow_listedTags hs hread] at hmem
  obtain ⟨row, hrow, hof⟩ := List.mem_map.1 hmem
  obtain ⟨hid, -, -, hcount⟩ := TagWithCount.ofRow_eq_ok_iff.1 hof
  exact ⟨row, (Listing.listedTags_perm s).mem_iff.1 hrow, hid, (Value.integer.inj hcount).symm⟩

theorem pairwise_precedes (hs : s.Sound)
    (hread : (Listing.tagsWithCounts.rows s.tables).mapM TagWithCount.ofRow = .ok tags) :
    tags.Pairwise TagWithCount.Precedes := by
  have hsorted : (tags.map Except.ok).Pairwise fun x y : Except LibraryError TagWithCount =>
      ∀ a b, x = .ok a → y = .ok b → a.Precedes b := by
    rw [← map_ofRow_listedTags hs hread]
    refine List.pairwise_map.2 ((Listing.pairwise_listedTags hs).imp fun hlt a b ha hb => ?_)
    exact TagWithCount.precedes_of_tagPosition ha hb hlt
  exact (List.pairwise_map.1 hsorted).imp fun h => h _ _ rfl rfl

/-- Every tag of the store is read once, with its names. -/
theorem columns_perm (hs : s.Sound)
    (hread : (Listing.tagsWithCounts.rows s.tables).mapM TagWithCount.ofRow = .ok tags) :
    (tags.map fun tag : TagWithCount =>
      [Value.integer tag.id.value, .text tag.name, .text tag.nameNormalized]).Perm
        ((s.rows .tags).map fun row =>
          [row.value "id", row.value "name", row.value "name_normalized"]) := by
  rw [Listing.rows_tagsWithCounts hs] at hread
  have hcolumns := map_eq_map_of_mapM_eq_ok hread
    (f := fun row => [row.value "id", row.value "name", row.value "name_normalized"])
    (g := fun tag => [.integer tag.id.value, .text tag.name, .text tag.nameNormalized]) (by
      intro row tag hof
      obtain ⟨hid, hname, hnormalized, -⟩ := TagWithCount.ofRow_eq_ok_iff.1 hof
      rw [hid, hname, hnormalized])
  rw [← hcolumns, List.map_map]
  exact (Listing.listedTags_perm s).map _

theorem exists_tags (hs : s.Sound)
    (htext : ∀ row ∈ s.rows .tags, (∃ name, row.value "name" = .text name) ∧
      ∃ name, row.value "name_normalized" = .text name) :
    ∃ tags, (Listing.tagsWithCounts.rows s.tables).mapM TagWithCount.ofRow = .ok tags := by
  refine exists_mapM_eq_ok fun row hrow => ?_
  rw [Listing.rows_tagsWithCounts hs] at hrow
  obtain ⟨tag, htag, rfl⟩ := List.mem_map.1 hrow
  have htag := (Listing.listedTags_perm s).mem_iff.1 htag
  obtain ⟨i, hi⟩ := hs.numbered .tags tag htag
  obtain ⟨⟨name, hname⟩, normalized, hnormalized⟩ := htext tag htag
  exact ⟨⟨⟨i⟩, name, normalized, s.albumCount tag⟩,
    TagWithCount.ofRow_eq_ok_iff.2 ⟨hi, hname, hnormalized, rfl⟩⟩

end Listed

/-- **The number that is listed with a tag is the number of albums that picking it gives.**  Every
tag is listed once.  Those that more albums carry come first, and of those that as many carry the
one with the lesser name.  In what order the store keeps its rows is no matter.  A tag that only
tracks carry is listed with no album. -/
theorem tags_counted_and_picked {session : Session Database}
    (hopen : session.state.closed = false) (hs : session.state.store.Sound) (size : UInt32) :
    let service : LibraryService Database := ⟨Database.adapter, size⟩
    let store := session.state.store
    ((∀ row ∈ store.rows .tags, (∃ name, row.value "name" = .text name) ∧
        ∃ name, row.value "name_normalized" = .text name) →
      ∃ tags, (service.tags.run session).1 = .ok tags) ∧
    (∀ session' : Session Database, session'.state.closed = false →
      store.SameRows session'.state.store →
        (service.tags.run session').1 = (service.tags.run session).1) ∧
    IsStrictOrder TagWithCount TagWithCount.Precedes ∧
    ∀ tags, (service.tags.run session).1 = .ok tags →
      ((tags.map fun tag : TagWithCount =>
        [Value.integer tag.id.value, .text tag.name, .text tag.nameNormalized]).Perm
          ((store.rows .tags).map fun row =>
            [row.value "id", row.value "name", row.value "name_normalized"])) ∧
      tags.Pairwise TagWithCount.Precedes ∧
      ∀ tag ∈ tags,
        let carriers := (store.rows .albums).filter fun album =>
          .integer tag.id.value ∈ store.albumTags album
        tag.albumCount = .ofNat carriers.length ∧
        (carriers.length < 2 ^ 63 → tag.albumCount.toInt = carriers.length) ∧
        ∀ request, request.pageSize ≠ 0 →
          let picked := service.queryAlbums (({} : FilterSpec).withIncludeTags [tag.id]) request
          (store.Textual → ∃ page, (picked.run session).1 = .ok page) ∧
          ∀ page, (picked.run session).1 = .ok page →
            page.total.toNat = tag.albumCount.toInt.toNat := by
  intro service store
  have hrun : (service.tags.run session).1 = _ := Database.run_tags hopen size
  rw [hrun]
  refine ⟨exists_tags hs, ?_, inferInstance, fun tags htags =>
    ⟨columns_perm hs htags, pairwise_precedes hs htags, fun tag htag => ?_⟩⟩
  · intro session' hopen' hsame
    rw [Database.run_tags hopen' size, Listing.rows_tagsWithCounts_eq hsame hs]
  · obtain ⟨row, -, hid, hcount⟩ := exists_row_of_mem_tags hs htags htag
    intro carriers
    have hcarriers : store.albumsTagged row = carriers := by
      unfold Store.albumsTagged
      rw [hid]
    have hnumber : tag.albumCount = .ofNat carriers.length := by
      rw [hcount, Store.albumCount, hcarriers]
    refine ⟨hnumber, ?_, fun request hpage => ?_⟩
    · intro hfew
      rw [hnumber, Int64.toInt_ofNat_of_lt hfew]
    · intro picked
      have hpicked : (picked.run session).1 = _ :=
        Database.run_queryAlbums_ofTag hopen hs hid hpage
      rw [hpicked, ← hcount]
      constructor
      · intro htextual
        obtain ⟨albums, halbums⟩ := Database.exists_page_ofTag hs htextual
        rw [halbums]
        exact ⟨_, rfl⟩
      · intro page htotal
        cases hitems : (((LibraryQuery.ofTag tag.id).page request).statement.rows
            store.tables).mapM Album.ofRow with
        | error e =>
            rw [hitems] at htotal
            cases htotal
        | ok albums =>
            rw [hitems] at htotal
            obtain rfl := Except.ok.inj htotal
            exact LibraryService.toNat_number tag.albumCount

/-- The row of a tag. -/
def Store.tagNamed (number : Int64) (name : String) : Row :=
  newRow .tags number [("name", .text name), ("name_normalized", .text name)]

/-- Of two tags the one that only a track carries is listed with no album, the other with one. -/
theorem tags_counted_and_picked_on_track :
    let store : Store :=
      { rows
          | .tags => [Store.tagNamed 1 "rain", Store.tagNamed 2 "sleep"]
          | .albumTags => [Store.newRow .albumTags 1
              [("album_id", .integer 1), ("tag_id", .integer 2)]]
          | t => (Store.sample "one").rows t }
    let session : Session Database := { state := { store } }
    let service : LibraryService Database := ⟨Database.adapter, 10⟩
    session.state.closed = false ∧ store.Sound ∧
      ∃ tags, (service.tags.run session).1 = .ok tags ∧
        (∃ rain ∈ tags, rain.name = "rain" ∧ rain.albumCount = 0) ∧
        ∃ sleep ∈ tags, sleep.name = "sleep" ∧ sleep.albumCount = 1 ∧
          ∃ page, ((service.queryAlbums (({} : FilterSpec).withIncludeTags [sleep.id])
            (.first 1)).run session).1 = .ok page ∧ page.total.toNat = 1 := by
  intro store session service
  have hopen : session.state.closed = false := rfl
  have hs : store.Sound := by decide
  have ht : store.Textual := Store.Legible.textual (by decide)
  obtain ⟨hreadable, -, -, hlisted⟩ := tags_counted_and_picked hopen hs 10
  obtain ⟨tags, htags⟩ := hreadable fun row hrow =>
    ⟨ht.text .tags "name" (by decide) hrow, ht.text .tags "name_normalized" (by decide) hrow⟩
  obtain ⟨hperm, -, hcounted⟩ := hlisted tags htags
  have hnamed : ∀ number name, [.integer number, .text name, .text name] ∈
      ((store.rows .tags).map fun row =>
        [row.value "id", row.value "name", row.value "name_normalized"]) →
      ∃ tag ∈ tags, tag.id = ⟨number⟩ ∧ tag.name = name := by
    intro number name hmem
    obtain ⟨tag, htag, hcolumns⟩ := List.mem_map.1 (hperm.mem_iff.2 hmem)
    simp only [List.cons.injEq, Value.integer.injEq, Value.text.injEq] at hcolumns
    exact ⟨tag, htag, congrArg TagId.mk hcolumns.1, hcolumns.2.1⟩
  obtain ⟨rain, hrain, hrainId, hrainName⟩ := hnamed 1 "rain" (by decide)
  obtain ⟨sleep, hsleep, hsleepId, hsleepName⟩ := hnamed 2 "sleep" (by decide)
  obtain ⟨hrainCount, -⟩ := hcounted rain hrain
  obtain ⟨hsleepCount, -, hpicked⟩ := hcounted sleep hsleep
  rw [hrainId] at hrainCount
  rw [hsleepId] at hsleepCount
  obtain ⟨hpage, htotal⟩ := hpicked (.first 1) (by decide)
  obtain ⟨page, hpage⟩ := hpage ht
  refine ⟨hopen, hs, tags, htags, ⟨rain, hrain, hrainName, hrainCount⟩, sleep, hsleep, hsleepName,
    hsleepCount, page, hpage, ?_⟩
  rw [htotal page hpage, hsleepCount]
  decide

end AudioLibrary
