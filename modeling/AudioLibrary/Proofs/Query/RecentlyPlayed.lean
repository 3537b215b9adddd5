import AudioLibrary.Proofs.Query.Answers
import AudioLibrary.Proofs.Query.Reordered
import AudioLibrary.Query.Listing

/-!
# The albums played last

The listing of albums played last joins albums with their statistics, so that albums never played
have no row in it.  A query that sorts by the last time played keeps them and puts them at the end.
Two played albums stand alike in both orders, `position_of_played`, and an unplayed one stands
after every played one, `position_of_unplayed`.  So the listing is the front of the query,
`rows_recentSelect_eq_filter`.
-/

namespace AudioLibrary

open AudioLibrary.Relational
open Std

/-! ## Played albums -/

namespace Relational

/-- Where those with a property stand in front, they are a front part of the list. -/
theorem filter_eq_take_of_pairwise {α : Type} {p : α → Bool} {l : List α}
    (h : l.Pairwise fun a b => p b = true → p a = true) : l.filter p = l.take (l.countP p) := by
  induction l with
  | nil => rfl
  | cons a l ih =>
      obtain ⟨ha, hl⟩ := List.pairwise_cons.1 h
      by_cases hp : p a = true
      · rw [List.filter_cons_of_pos hp, List.countP_cons_of_pos hp, List.take_succ_cons, ih hl]
      · have hnone : ∀ b ∈ a :: l, ¬p b = true := by
          intro b hb
          rcases List.mem_cons.1 hb with rfl | hb
          · exact hp
          · exact fun hpb => hp (ha b hb hpb)
        rw [List.filter_eq_nil_iff.2 hnone, List.countP_eq_zero.2 hnone, List.take_zero]

end Relational

namespace Store

/-- Whether there are statistics of an album. -/
def isPlayed (s : Store) (album : Row) : Bool :=
  (s.rows .playStats).any fun stats => stats.value "album_id" = album.value "id"

variable {s : Store} {album : Row}

theorem isPlayed_iff :
    s.isPlayed album = true ↔
      ∃ stats ∈ s.rows .playStats, stats.value "album_id" = album.value "id" := by
  unfold isPlayed
  rw [List.any_eq_true]
  simp only [decide_eq_true_eq]

/-- The statistics of an album are one row or none. -/
theorem byNumber_playStats (hs : s.Sound) (halbum : album ∈ s.rows .albums) :
    s.byNumber .playStats (album.value "id") =
      if s.isPlayed album then some (s.statsOf album) else none := by
  obtain ⟨i, hi⟩ := hs.numbered .albums album halbum
  change album.value "id" = .integer i at hi
  have hfound : ∀ stats, s.byNumber .playStats (album.value "id") = some stats ↔
      stats ∈ s.rows .playStats ∧ stats.value "album_id" = album.value "id" := by
    intro stats
    rw [hi]
    exact hs.byNumber_eq_some_iff
  unfold statsOf
  cases hstats : s.byNumber .playStats (album.value "id") with
  | none =>
      have hnone : ¬s.isPlayed album = true := by
        rw [isPlayed_iff]
        rintro ⟨stats, hrow, hid⟩
        rw [(hfound stats).2 ⟨hrow, hid⟩] at hstats
        cases hstats
      rw [if_neg hnone]
  | some stats =>
      rw [if_pos (isPlayed_iff.2 ⟨stats, (hfound stats).1 hstats⟩), Option.getD_some]

/-- An album was played at some time exactly if there are statistics of it. -/
theorem isNull_lastPlayed (hs : s.Sound) (halbum : album ∈ s.rows .albums) :
    (s.lastPlayed album).isNull = !s.isPlayed album := by
  have hnumber := byNumber_playStats hs halbum
  unfold lastPlayed
  cases hplayed : s.isPlayed album with
  | true =>
      rw [hplayed, if_pos rfl] at hnumber
      have hrow := List.mem_of_find?_eq_some hnumber
      have hrequired := hs.required .playStats _ hrow (.integer "last_played_at") (by decide) rfl
      cases hvalue : (s.statsOf album).value "last_played_at" with
      | null => exact absurd hvalue hrequired
      | integer | real | text | blob => rfl
  | false =>
      rw [hplayed] at hnumber
      have hstats : s.statsOf album = [] := by
        rw [statsOf, hnumber]
        rfl
      rw [hstats]
      rfl

end Store

/-! ## The order of played albums -/

namespace Listing

variable {s : Store}

/-- The keys of the listing: the time played last, then the number of the album. -/
def lastPlayedKeys : List OrderKey :=
  [Shape.descending "ps" "last_played_at", Shape.descending "a" "id"]

/-- The select of the listing. -/
def recentSelect : Select :=
  { items := [.all "a"]
    source :=
      { relation := .table ⟨"albums", some "a"⟩
        joins := [{ table := ⟨"album_play_stats", some "ps"⟩
                    on := .equals (.col "ps" "album_id") (.col "a" "id") }] }
    orderBy := lastPlayedKeys }

/-- The order of the listing. -/
def recentOrder (s : Store) : Row → Row → Ordering := rowOrder (Shape.albumValue s) lastPlayedKeys

instance (s : Store) : TransCmp (recentOrder s) := by
  unfold recentOrder
  infer_instance

/-- The sort puts played albums as the listing does: its mark says nothing of two of them. -/
theorem position_of_played (hs : s.Sound) {a b : Row} (ha : a ∈ s.rows .albums)
    (hb : b ∈ s.rows .albums) (haplayed : s.isPlayed a = true) (hbplayed : s.isPlayed b = true) :
    Shape.albums.position s .lastPlayedDesc a b = recentOrder s a b := by
  obtain ⟨i, hi⟩ := hs.numbered .albums a ha
  obtain ⟨j, hj⟩ := hs.numbered .albums b hb
  have hmark : compare (s.lastPlayed a).isNull (s.lastPlayed b).isNull = .eq := by
    rw [Store.isNull_lastPlayed hs ha, Store.isNull_lastPlayed hs hb, haplayed, hbplayed]
    rfl
  have hrecent : recentOrder s a b =
      (Value.keyOrder .binary (s.lastPlayed b) (s.lastPlayed a)).then
        (Value.keyOrder .binary (b.value "id") (a.value "id")) := by
    unfold recentOrder lastPlayedKeys
    rw [← List.singleton_append, rowOrder_append, Shape.rowOrder_singleton,
      Shape.rowOrder_singleton]
    rfl
  rw [hrecent, Shape.keyOrder_number hj hi]
  show Ordering.then (Ordering.then (compare _ _) _) _ = _
  rw [hmark]
  rfl

/-- The sort puts played albums first. -/
theorem position_of_unplayed (hs : s.Sound) {a b : Row} (ha : a ∈ s.rows .albums)
    (hb : b ∈ s.rows .albums) (haplayed : s.isPlayed a = false) (hbplayed : s.isPlayed b = true) :
    Shape.albums.position s .lastPlayedDesc a b = .gt := by
  have hmark : compare (s.lastPlayed a).isNull (s.lastPlayed b).isNull = .gt := by
    rw [Store.isNull_lastPlayed hs ha, Store.isNull_lastPlayed hs hb, haplayed, hbplayed]
    rfl
  show Ordering.then (Ordering.then (compare _ _) _) _ = .gt
  rw [hmark]
  rfl

/-! ## The rows of the listing -/

/-- Albums without statistics have no partner in the join. -/
theorem scopes_recentSelect (hs : s.Sound) :
    recentSelect.scopes s.tables =
      ((s.rows .albums).filter s.isPlayed).map (Shape.albumScope s) := by
  have hjoin : ∀ album ∈ s.rows .albums, Join.extend s.tables
      ⟨false, ⟨"album_play_stats", some "ps"⟩, .equals (.col "ps" "album_id") (.col "a" "id")⟩
        [("a", album)] =
          (Option.guard s.isPlayed album).toList.map (Shape.albumScope s) := by
    intro album halbum
    obtain ⟨i, hi⟩ := hs.numbered .albums album halbum
    change album.value "id" = .integer i at hi
    have hvalue : (([("a", album)].lookup "a").getD []).value "id" = .integer i := hi
    have hextend := hs.extend_number .playStats false "ps" "a" "id" (by decide) hvalue
    rw [← hi, Store.byNumber_playStats hs halbum] at hextend
    refine hextend.trans ?_
    unfold Option.guard
    cases s.isPlayed album <;> rfl
  have hsource : recentSelect.scopes s.tables =
      ((s.tables "albums").map fun album => [("a", album)]).flatMap (Join.extend s.tables
        ⟨false, ⟨"album_play_stats", some "ps"⟩,
          .equals (.col "ps" "album_id") (.col "a" "id")⟩) :=
    List.filter_eq_self.2 fun _ _ => rfl
  rw [hsource, show s.tables "albums" = s.rows .albums from Store.tables_name s .albums,
    List.flatMap_map, List.flatMap_congr hjoin, ← List.map_flatMap,
    ← List.filterMap_eq_flatMap_toList, List.filterMap_eq_filter]

theorem project_recentSelect (s : Store) (album : Row) :
    recentSelect.project s.tables (Shape.albumScope s album) = album :=
  List.flatMap_singleton _ _

/-- The listing compares albums by its order. -/
theorem compareKeys_recentSelect (hs : s.Sound) {a b : Row} (ha : a ∈ s.rows .albums)
    (hb : b ∈ s.rows .albums) :
    compareKeys lastPlayedKeys (recentSelect.keyValues s.tables (Shape.albumScope s a) a)
      (recentSelect.keyValues s.tables (Shape.albumScope s b) b) = recentOrder s a b := by
  have hvalues : ∀ album : Row, recentSelect.keyValues s.tables (Shape.albumScope s album) album =
      lastPlayedKeys.map fun k => Shape.albumValue s k album := fun _ => rfl
  have hcomparable : ∀ album ∈ s.rows .albums, ∀ k ∈ lastPlayedKeys,
      (Shape.albumValue s k album).equalsItself = true := fun album halbum k hk =>
    Shape.comparable_albumValue hs .lastPlayedDesc halbum k (List.mem_cons_of_mem _ hk)
  rw [hvalues, hvalues]
  exact compareKeys_map (hcomparable a ha) (hcomparable b hb)

theorem rows_recentSelect (hs : s.Sound) :
    recentSelect.rows s.tables = ((s.rows .albums).filter s.isPlayed).mergeSort fun a b =>
      compareKeys lastPlayedKeys (recentSelect.keyValues s.tables (Shape.albumScope s a) a)
        (recentSelect.keyValues s.tables (Shape.albumScope s b) b) != .gt := by
  rw [Select.rows_eq_map_mergeSort rfl (scopes_recentSelect hs)]
  simp only [project_recentSelect, List.map_id']
  rfl

theorem mem_rows_recentSelect (hs : s.Sound) {album : Row} :
    album ∈ recentSelect.rows s.tables ↔ album ∈ s.rows .albums ∧ s.isPlayed album = true := by
  rw [rows_recentSelect hs, List.mem_mergeSort, List.mem_filter]

theorem pairwise_rows_recentSelect (hs : s.Sound) :
    (recentSelect.rows s.tables).Pairwise fun a b => recentOrder s a b = .lt := by
  have hsorted : (recentSelect.rows s.tables).Pairwise fun a b =>
      (recentOrder s a b).isLE = true := by
    rw [rows_recentSelect hs]
    refine pairwise_mergeSort_of_eq fun a ha b hb => ?_
    rw [bne_gt_eq_isLE,
      compareKeys_recentSelect hs (List.mem_filter.1 ha).1 (List.mem_filter.1 hb).1]
  have hnodup : (recentSelect.rows s.tables).Nodup := by
    rw [rows_recentSelect hs, (List.mergeSort_perm _ _).nodup_iff]
    exact (hs.nodup_rows .albums).filter _
  refine pairwise_lt_of_sorted hsorted hnodup fun a ha b hb htied => ?_
  obtain ⟨ha, haplayed⟩ := (mem_rows_recentSelect hs).1 ha
  obtain ⟨hb, hbplayed⟩ := (mem_rows_recentSelect hs).1 hb
  rw [← position_of_played hs ha hb haplayed hbplayed,
    ← Shape.itemOrder_eq_position hs .albums .lastPlayedDesc ha hb] at htied
  exact Shape.eq_of_itemOrder_eq hs .albums ha hb htied

/-! ## The listing and the sort -/

section Sorted

variable {spec : FilterSpec}

/-- The sort puts every played album before every other one. -/
theorem pairwise_isPlayed_itemsOf (hs : s.Sound) (hsort : spec.sort = .lastPlayedDesc) :
    (Shape.albums.itemsOf s spec).Pairwise fun a b =>
      s.isPlayed b = true → s.isPlayed a = true := by
  refine (Shape.pairwise_position hs .albums spec).imp_of_mem fun ha hb hlt hbplayed => ?_
  have ha := ((Shape.mem_itemsOf_iff hs .albums).1 ha).mem hs
  have hb := ((Shape.mem_itemsOf_iff hs .albums).1 hb).mem hs
  by_contra haplayed
  rw [hsort, position_of_unplayed hs ha hb (Bool.eq_false_iff.2 haplayed) hbplayed] at hlt
  cases hlt

/-- **The listing shows the played albums of the sort, in its order.** -/
theorem rows_recentSelect_eq_filter (hs : s.Sound) (hsort : spec.sort = .lastPlayedDesc)
    (hall : ∀ album ∈ s.rows .albums, spec.Selects s .albums album) :
    recentSelect.rows s.tables = (Shape.albums.itemsOf s spec).filter s.isPlayed := by
  have hitems : ∀ {album}, album ∈ Shape.albums.itemsOf s spec ↔ album ∈ s.rows .albums := by
    intro album
    rw [Shape.mem_itemsOf_iff hs]
    exact ⟨fun h => h.mem hs, fun h => ⟨album, h, rfl, hall album h⟩⟩
  have hsorted : ((Shape.albums.itemsOf s spec).filter s.isPlayed).Pairwise fun a b =>
      recentOrder s a b = .lt := by
    refine ((Shape.pairwise_position hs .albums spec).filter _).imp_of_mem fun ha hb hlt => ?_
    obtain ⟨ha, haplayed⟩ := List.mem_filter.1 ha
    obtain ⟨hb, hbplayed⟩ := List.mem_filter.1 hb
    rwa [hsort, position_of_played hs (hitems.1 ha) (hitems.1 hb) haplayed hbplayed] at hlt
  refine (pairwise_rows_recentSelect hs).eq_of_mem_iff hsorted fun album => ?_
  rw [mem_rows_recentSelect hs, List.mem_filter, hitems]

end Sorted

end Listing

/-! ## The call -/

section Call

variable {session : Session Database}

/-- An open database lists the first rows of the listing. -/
theorem Database.outcome_recentlyPlayed (hopen : session.state.closed = false)
    (size limit : UInt32) :
    (LibraryService.recentlyPlayed ⟨Database.adapter, size⟩ limit).outcome session =
      (((Listing.recentSelect.rows session.state.store.tables).take limit.toNat).mapM Album.ofRow,
        session.state) := by
  unfold LibraryService.recentlyPlayed
  by_cases hlimit : limit = 0
  · subst hlimit
    rw [if_pos rfl, UInt32.toNat_zero, List.take_zero]
    rfl
  · rw [if_neg hlimit]
    have hshort : (Listing.recentlyPlayed limit).meetsLongPattern session.state.store.tables =
        false :=
      Select.meetsLongPattern_eq_false fun c hc => absurd hc List.not_mem_nil
    exact outcome_fetchAll_of_open hopen (Statement.run_eq_ok rfl hshort) Album.ofRow

end Call

/-- **The albums played last are the front of the query that sorts by it.**  That query gives every
album, those with statistics before those without.  The listing shows as many of its first albums as
have statistics and are asked for, and it fails only if one of these cannot be read. -/
theorem recently_played_heads_sort {session : Session Database}
    (hopen : session.state.closed = false) (hs : session.state.store.Sound)
    (size limit : UInt32) :
    let service : LibraryService Database := ⟨Database.adapter, size⟩
    let store := session.state.store
    let query := LibraryQuery.compile .albums (({} : FilterSpec).withSort .lastPlayedDesc)
    let rows := query.statement.rows store.tables
    let played := (store.rows .albums).countP store.isPlayed
    (Database.adapter.query query.statement session.state).result = .ok rows ∧
      rows.Perm (store.rows .albums) ∧
      (rows.Pairwise fun a b => store.isPlayed b = true → store.isPlayed a = true) ∧
      (service.recentlyPlayed limit).outcome session =
        ((rows.take (min limit.toNat played)).mapM Album.ofRow, session.state) ∧
      (store.Textual → ∃ albums, rows.mapM Album.ofRow = .ok albums ∧
        (service.recentlyPlayed limit).outcome session =
          (.ok (albums.take (min limit.toNat played)), session.state)) := by
  intro service store query rows played
  have hshort : query.statement.meetsLongPattern store.tables = false :=
    LibraryQuery.meetsLongPattern_eq_false fun p hp => absurd hp List.not_mem_nil
  have hrun : session.state.rows "Query" query.statement = .ok rows := by
    rw [Database.rows_of_open hopen, Statement.run_eq_ok rfl hshort]
    rfl
  have hitems : rows = Shape.albums.itemsOf store (({} : FilterSpec).withSort .lastPlayedDesc) :=
    Shape.rows_albums_eq_itemsOf hs _
  have hall : ∀ album ∈ store.rows .albums,
      (({} : FilterSpec).withSort .lastPlayedDesc).Selects store .albums album :=
    fun album _ => (Shape.selects_withSort_iff .albums _).2 FilterSpec.selects_of_none
  have hperm : rows.Perm (store.rows .albums) := by
    have hperm := Shape.rows_albums_perm hs fun album halbum => iff_true_intro (hall album halbum)
    rwa [List.filter_eq_self.2 fun album _ => decide_eq_true trivial] at hperm
  have hfirst : rows.Pairwise fun a b => store.isPlayed b = true → store.isPlayed a = true :=
    hitems ▸ Listing.pairwise_isPlayed_itemsOf hs rfl
  have hlisted : (Listing.recentSelect.rows store.tables).take limit.toNat =
      rows.take (min limit.toNat played) := by
    rw [Listing.rows_recentSelect_eq_filter hs rfl hall, ← hitems,
      filter_eq_take_of_pairwise hfirst, List.take_take, hperm.countP_eq]
  have hanswer : (service.recentlyPlayed limit).outcome session =
      ((rows.take (min limit.toNat played)).mapM Album.ofRow, session.state) := by
    rw [← hlisted]
    exact Database.outcome_recentlyPlayed hopen size limit
  refine ⟨hrun, hperm, hfirst, hanswer, fun htextual => ?_⟩
  obtain ⟨albums, halbums⟩ := Shape.exists_albums hs htextual
    (({} : FilterSpec).withSort .lastPlayedDesc)
  refine ⟨albums, halbums, hanswer.trans (congrArg (·, _) ?_)⟩
  rw [mapM_eq_ok_iff] at halbums ⊢
  rw [List.map_take, halbums, List.map_take]

/-- A store with statistics of when albums were played last. -/
def Store.playedAt (s : Store) (times : List (Int64 × Int64)) : Store where
  rows
    | .playStats => times.map fun (album, time) =>
        newRow .playStats album [("last_played_at", .integer time)]
    | t => s.rows t

/-- Of two albums played at one time the newer comes first.  One that was never played is not
listed, though there is room for it. -/
theorem recently_played_heads_sort_tied :
    let store := (Store.ofAlbums [[], [], [], []]).playedAt [(1, -5), (3, 0), (4, 0)]
    let session : Session Database := { state := { store } }
    session.state.closed = false ∧ store.Sound ∧
      (((LibraryService.recentlyPlayed ⟨Database.adapter, 10⟩ 9).outcome session).1.map
        fun albums => albums.map fun album => album.id.value) = .ok [4, 3, 1] := by
  intro store session
  have hopen : session.state.closed = false := rfl
  have hs : store.Sound := by decide
  have hrows : (LibraryQuery.compile .albums
      (({} : FilterSpec).withSort .lastPlayedDesc)).statement.rows store.tables =
        [4, 3, 1, 2].map fun i => ((store.rows .albums)[i - 1]?).getD [] :=
    Shape.rows_albums_eq_of_sorted hs (by decide +kernel) (by decide +kernel)
  have hanswer := (recently_played_heads_sort hopen hs 10 9).2.2.2.1
  refine ⟨hopen, hs, ?_⟩
  rw [hanswer, hrows]
  rfl

end AudioLibrary
