import AudioLibrary.Proofs.Query.Rows
import AudioLibrary.Proofs.Relational.Order

/-!
# The order of albums and of tracks

Whatever the sort, albums are ordered by values of the album and its statistics alone, and the last
of these is the album's number: `albumsOrder` has no ties.  Tracks are ordered as their albums are,
and by their files within an album, `tracksOrder`.  The rows of every query are sorted by one of
the two, `mayPrecede_headers` and `mayPrecede_tracks`.
-/

namespace AudioLibrary.Shape

open AudioLibrary.Relational
open Std

variable {s : Store}

/-! ## Values of keys -/

/-- What the order of albums looks at. -/
def albumScope (s : Store) (album : Row) : Scope := [("ps", s.statsOf album), ("a", album)]

/-- The value of an album under a key. -/
def albumValue (s : Store) (k : OrderKey) (album : Row) : Value :=
  k.term.eval s.tables (albumScope s album)

/-- The value of a track under a key of its own. -/
def fileValue (s : Store) (k : OrderKey) (track : Row) : Value :=
  k.term.eval s.tables [("t", track)]

/-- The order of albums. -/
def albumsOrder (s : Store) (sort : SortOrder) : Row → Row → Ordering :=
  rowOrder (albumValue s) (albumOrder sort)

/-- The order of tracks: by their albums, then by their files. -/
def tracksOrder (s : Store) (sort : SortOrder) : Row → Row → Ordering :=
  compareLex (fun a b => albumsOrder s sort (s.ownerOf a) (s.ownerOf b))
    (rowOrder (fileValue s) fileOrder)

instance (s : Store) (sort : SortOrder) : TransCmp (albumsOrder s sort) := by
  unfold albumsOrder
  infer_instance

instance (s : Store) (sort : SortOrder) : TransCmp (tracksOrder s sort) := by
  unfold tracksOrder
  infer_instance

theorem eval_album_column (shape : Shape) (s : Store) (sort : SortOrder) (row shown : Row)
    (column : String) :
    (Expr.col "a" column).eval (("", shown) :: shape.scope s sort row) =
      (shape.albumOf s row).value column := by
  have hlookup : (("", shown) :: shape.scope s sort row).lookup "a" =
      (shape.scope s sort row).lookup "a" := rfl
  rw [eval_col, hlookup, lookup_scope shape s sort row (by decide), lookup_baseScope,
    Option.getD_some]

theorem eval_stats_column (shape : Shape) (s : Store) (row shown : Row) (column : String) :
    (Expr.col "ps" column).eval (("", shown) :: shape.scope s .lastPlayedDesc row) =
      (s.statsOf (shape.albumOf s row)).value column := by
  rw [eval_col]
  rfl

/-- The keys of the order of albums look at the album and its statistics only. -/
theorem eval_albumOrder (shape : Shape) (s : Store) (sort : SortOrder) (row shown : Row) :
    ∀ k ∈ albumOrder sort, k.term.eval s.tables (("", shown) :: shape.scope s sort row) =
      albumValue s k (shape.albumOf s row) := by
  have halbum : ∀ k : OrderKey, ∀ column, k.term = .expr (.col "a" column) →
      k.term.eval s.tables (("", shown) :: shape.scope s sort row) =
        albumValue s k (shape.albumOf s row) := by
    intro k column hk
    rw [albumValue, hk, Term.eval, Term.eval, eval_album_column, eval_col]
    rfl
  intro k hk
  -- each order is one or two keys of its own before the number of the album
  unfold albumOrder at hk
  rcases List.mem_append.1 hk with hk | hk
  · cases sort with
    | addedDesc => simp at hk
    | titleAsc | rjAsc | circleAsc | cvAsc =>
        obtain rfl := List.mem_singleton.1 hk
        exact halbum _ _ rfl
    | lastPlayedDesc =>
        have hstats := eval_stats_column shape s row shown "last_played_at"
        have hstats' : (Expr.col "ps" "last_played_at").eval
            (albumScope s (shape.albumOf s row)) =
              (s.statsOf (shape.albumOf s row)).value "last_played_at" := by
          rw [eval_col]
          rfl
        rcases List.mem_cons.1 hk with rfl | hk
        · unfold albumValue
          rw [Term.eval, Term.eval, Plain.holds, Plain.holds, Plain.eval, Plain.eval,
            Condition.eval, Condition.eval, hstats, hstats']
          rfl
        · obtain rfl := List.mem_singleton.1 hk
          unfold albumValue descending
          rw [Term.eval, Term.eval, hstats, hstats']
  · obtain rfl := List.mem_singleton.1 hk
    exact halbum _ _ rfl

/-- The keys of the order of files look at the track only. -/
theorem eval_fileOrder (shape : Shape) (s : Store) (sort : SortOrder) (row shown : Row)
    (hshape : (shape.baseScope s row).lookup "t" = some row) :
    ∀ k ∈ fileOrder, k.term.eval s.tables (("", shown) :: shape.scope s sort row) =
      fileValue s k row := by
  have htrack : ∀ column, (Expr.col "t" column).eval (("", shown) :: shape.scope s sort row) =
      row.value column := by
    intro column
    have hlookup : (("", shown) :: shape.scope s sort row).lookup "t" =
        (shape.scope s sort row).lookup "t" := rfl
    rw [eval_col, hlookup, lookup_scope shape s sort row (by decide), hshape, Option.getD_some]
  intro k hk
  unfold fileOrder at hk
  rcases List.mem_cons.1 hk with rfl | hk
  · exact htrack "path"
  · obtain rfl := List.mem_singleton.1 hk
    exact htrack "id"

/-! ## No value is incomparable -/

theorem comparable_albumValue (hs : s.Sound) (sort : SortOrder) {album : Row}
    (halbum : album ∈ s.rows .albums) :
    ∀ k ∈ albumOrder sort, (albumValue s k album).equalsItself = true := by
  have hcolumn : ∀ column ∈ Table.albums.columns.map Column.name,
      (album.value column).equalsItself = true := by
    intro column hcolumn
    obtain ⟨c, hc, rfl⟩ := List.mem_map.1 hcolumn
    exact hs.comparable .albums album halbum c hc
  have hstats : ((s.statsOf album).value "last_played_at").equalsItself = true := by
    unfold Store.statsOf
    cases hfound : s.byNumber .playStats (album.value "id") with
    | none => rfl
    | some row =>
        exact hs.comparable .playStats row (List.mem_of_find?_eq_some hfound)
          (.integer "last_played_at") (by decide)
  intro k hk
  unfold albumOrder at hk
  rcases List.mem_append.1 hk with hk | hk
  · cases sort with
    | addedDesc => simp at hk
    | titleAsc | rjAsc | circleAsc | cvAsc =>
        obtain rfl := List.mem_singleton.1 hk
        exact hcolumn _ (by decide)
    | lastPlayedDesc =>
        rcases List.mem_cons.1 hk with rfl | hk
        · unfold albumValue
          rw [Term.eval]
          split <;> rfl
        · obtain rfl := List.mem_singleton.1 hk
          exact hstats
  · obtain rfl := List.mem_singleton.1 hk
    exact hcolumn _ (by decide)

theorem comparable_fileValue (hs : s.Sound) {track : Row} (htrack : track ∈ s.rows .tracks) :
    ∀ k ∈ fileOrder, (fileValue s k track).equalsItself = true := by
  intro k hk
  unfold fileOrder at hk
  rcases List.mem_cons.1 hk with rfl | hk
  · exact hs.comparable .tracks track htrack (.text "path") (by decide)
  · obtain rfl := List.mem_singleton.1 hk
    exact hs.comparable .tracks track htrack (.integer "id") (by decide)

/-! ## How queries sort -/

/-- The value of a row of a query under a key. -/
def rowValue (shape : Shape) (s : Store) (spec : FilterSpec) (k : OrderKey) (row : Row) : Value :=
  k.term.eval s.tables (("", shape.present s spec row) :: shape.scope s spec.sort row)

theorem mayPrecede_eq (shape : Shape) (spec : FilterSpec) {a b : Row}
    (ha : ∀ k ∈ shape.order spec.sort, (shape.rowValue s spec k a).equalsItself = true)
    (hb : ∀ k ∈ shape.order spec.sort, (shape.rowValue s spec k b).equalsItself = true) :
    shape.mayPrecede s spec a b =
      (rowOrder (shape.rowValue s spec) (shape.order spec.sort) a b).isLE := by
  rw [← compareKeys_map ha hb, ← bne_gt_eq_isLE]
  rfl

/-- Headers are sorted as their albums are. -/
theorem mayPrecede_headers (hs : s.Sound) (spec : FilterSpec) {a b : Row}
    (ha : a ∈ s.rows .tracks) (hb : b ∈ s.rows .tracks) :
    headers.mayPrecede s spec a b =
      (albumsOrder s spec.sort (s.ownerOf a) (s.ownerOf b)).isLE := by
  have hvalue : ∀ row, ∀ k ∈ albumOrder spec.sort,
      headers.rowValue s spec k row = albumValue s k (s.ownerOf row) :=
    fun row => eval_albumOrder headers s spec.sort row _
  have hcomparable : ∀ row ∈ s.rows .tracks, ∀ k ∈ albumOrder spec.sort,
      (headers.rowValue s spec k row).equalsItself = true := by
    intro row hrow k hk
    rw [hvalue row k hk]
    exact comparable_albumValue hs spec.sort (hs.ownerOf_mem hrow) k hk
  rw [mayPrecede_eq headers spec (hcomparable a ha) (hcomparable b hb)]
  exact congrArg Ordering.isLE (rowOrder_congr (hvalue a) (hvalue b))

/-- Tracks are sorted by their albums, then by their files, whether all of them are asked for or
those of one album. -/
theorem mayPrecede_tracks (hs : s.Sound) (spec : FilterSpec) {a b : Row}
    (ha : a ∈ s.rows .tracks) (hb : b ∈ s.rows .tracks) :
    tracks.mayPrecede s spec a b = (tracksOrder s spec.sort a b).isLE := by
  have halbum : ∀ row, ∀ k ∈ albumOrder spec.sort,
      tracks.rowValue s spec k row = albumValue s k (s.ownerOf row) :=
    fun row => eval_albumOrder tracks s spec.sort row _
  have hfile : ∀ row, ∀ k ∈ fileOrder, tracks.rowValue s spec k row = fileValue s k row :=
    fun row => eval_fileOrder tracks s spec.sort row _ rfl
  have hcomparable : ∀ row ∈ s.rows .tracks, ∀ k ∈ albumOrder spec.sort ++ fileOrder,
      (tracks.rowValue s spec k row).equalsItself = true := by
    intro row hrow k hk
    rcases List.mem_append.1 hk with hk | hk
    · rw [halbum row k hk]
      exact comparable_albumValue hs spec.sort (hs.ownerOf_mem hrow) k hk
    · rw [hfile row k hk]
      exact comparable_fileValue hs hrow k hk
  have horder : tracks.order spec.sort = albumOrder spec.sort ++ fileOrder := rfl
  rw [mayPrecede_eq tracks spec (hcomparable a ha) (hcomparable b hb), horder, rowOrder_append,
    rowOrder_congr (halbum a) (halbum b), rowOrder_congr (hfile a) (hfile b)]
  rfl

/-! ## No ties -/

/-- Albums that are tied are the same. -/
theorem eq_of_albumsOrder_eq (hs : s.Sound) {sort : SortOrder} {a b : Row}
    (ha : a ∈ s.rows .albums) (hb : b ∈ s.rows .albums) (h : albumsOrder s sort a b = .eq) :
    a = b := by
  obtain ⟨i, hi⟩ := hs.numbered .albums a ha
  obtain ⟨j, hj⟩ := hs.numbered .albums b hb
  have hid : ∀ album, albumValue s (descending "a" "id") album = album.value "id" := by
    intro album
    show (Expr.col "a" "id").eval (albumScope s album) = _
    rw [eval_col]
    rfl
  have htied := keyOrder_eq_of_rowOrder_eq h (descending "a" "id")
    (List.mem_append_right _ (List.mem_singleton_self _))
  rw [hid, hid, show a.value "id" = .integer i from hi, show b.value "id" = .integer j from hj]
    at htied
  refine hs.eq_of_number ha hb ?_
  rw [hi, hj, OrderKey.eq_of_keyOrder_integers htied]

/-- Tracks that are tied are the same. -/
theorem eq_of_tracksOrder_eq (hs : s.Sound) {sort : SortOrder} {a b : Row}
    (ha : a ∈ s.rows .tracks) (hb : b ∈ s.rows .tracks) (h : tracksOrder s sort a b = .eq) :
    a = b := by
  obtain ⟨i, hi⟩ := hs.numbered .tracks a ha
  obtain ⟨j, hj⟩ := hs.numbered .tracks b hb
  have hfiles : rowOrder (fileValue s) fileOrder a b = .eq := (Ordering.then_eq_eq.1 h).2
  have hid : ∀ track, fileValue s
      { term := .expr (.col "t" "id"), direction := some .ascending } track =
        track.value "id" := by
    intro track
    show (Expr.col "t" "id").eval [("t", track)] = _
    rw [eval_col]
    rfl
  have htied := keyOrder_eq_of_rowOrder_eq hfiles
    { term := .expr (.col "t" "id"), direction := some .ascending }
    (List.mem_cons_of_mem _ (List.mem_singleton_self _))
  rw [hid, hid, show a.value "id" = .integer i from hi, show b.value "id" = .integer j from hj]
    at htied
  refine hs.eq_of_number ha hb ?_
  rw [hi, hj, OrderKey.eq_of_keyOrder_integers htied]

end AudioLibrary.Shape
