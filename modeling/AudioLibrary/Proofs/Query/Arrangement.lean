import AudioLibrary.Proofs.Query.Headers
import Mathlib.Data.List.Sort

/-!
# The items of a result and their order

The rows of a result are about items: albums, also where their tracks are what is looked at, or
tracks.  `itemsOf` lists them in their order, and three facts determine it: its members are the
items that the filter gives, `mem_itemsOf_iff`, each stands before the next strictly,
`pairwise_itemsOf`, and the rows are the items as they are shown, `rows_eq_map_shown`.

Neither what is given nor what is shown depends on the sort, and the order depends on nothing else
of the filter.
-/

namespace AudioLibrary

open AudioLibrary.Relational
open Std

/-! ## Strictly sorted lists -/

namespace Relational

variable {α : Type} {cmp : α → α → Ordering}

/-- A sorted list without repetitions and without ties is sorted strictly. -/
theorem pairwise_lt_of_sorted {l : List α} (hl : l.Pairwise fun a b => (cmp a b).isLE = true)
    (hnodup : l.Nodup) (hties : ∀ a ∈ l, ∀ b ∈ l, cmp a b = .eq → a = b) :
    l.Pairwise fun a b => cmp a b = .lt := by
  refine (hl.and hnodup).imp_of_mem ?_
  rintro a b ha hb ⟨hle, hne⟩
  cases hcmp : cmp a b with
  | lt => rfl
  | eq => exact absurd (hties a ha b hb hcmp) hne
  | gt => simp [hcmp] at hle

variable [TransCmp cmp]

instance irrefl_compare_lt : Std.Irrefl fun a b => cmp a b = .lt where
  irrefl a h := by
    rw [@ReflCmp.compare_self α cmp _ a] at h
    cases h

instance antisymm_compare_lt : Std.Antisymm fun a b => cmp a b = .lt where
  antisymm a b hab hba := by
    rw [@OrientedCmp.eq_swap α cmp _ b a, hab] at hba
    cases hba

/-- Of two strictly sorted lists that with the fewer members is part of the other. -/
theorem sublist_of_subset_of_sorted {l l' : List α} (hl : l.Pairwise fun a b => cmp a b = .lt)
    (hl' : l'.Pairwise fun a b => cmp a b = .lt) (hsubset : l ⊆ l') : l.Sublist l' :=
  List.sublist_of_subperm_of_pairwise (List.subperm_of_subset hl.nodup hsubset) hl hl'

end Relational

namespace Shape

variable {s : Store} {spec : FilterSpec}

/-! ## Items -/

/-- The table of the items. -/
def itemTable : Shape → Table
  | albums | headers => .albums
  | tracks | albumTracks _ => .tracks

/-- The item that a row of a query is about. -/
def itemOf (shape : Shape) (s : Store) (row : Row) : Row :=
  match shape with
  | headers => s.ownerOf row
  | albums | tracks | albumTracks _ => row

/-- The order of items. -/
def itemOrder (shape : Shape) (s : Store) (sort : SortOrder) : Row → Row → Ordering :=
  match shape with
  | albums | headers => albumsOrder s sort
  | tracks | albumTracks _ => tracksOrder s sort

instance (shape : Shape) (s : Store) (sort : SortOrder) : TransCmp (shape.itemOrder s sort) := by
  cases shape with
  | albums | headers => exact inferInstanceAs (TransCmp (albumsOrder s sort))
  | tracks | albumTracks => exact inferInstanceAs (TransCmp (tracksOrder s sort))

/-- The items of a result in their order. -/
def itemsOf (shape : Shape) (s : Store) (spec : FilterSpec) : List Row :=
  ((shape.kept s spec).mergeSort (shape.mayPrecede s spec)).map (shape.itemOf s)

/-- Whether a filter gives an item: a row that is about it is selected. -/
def Gives (shape : Shape) (s : Store) (spec : FilterSpec) (item : Row) : Prop :=
  ∃ row ∈ s.rows shape.table, shape.itemOf s row = item ∧ spec.Selects s shape row

theorem itemOf_mem (hs : s.Sound) (shape : Shape) {row : Row} (hrow : row ∈ s.rows shape.table) :
    shape.itemOf s row ∈ s.rows shape.itemTable := by
  cases shape with
  | headers => exact hs.ownerOf_mem hrow
  | albums | tracks | albumTracks => exact hrow

theorem Gives.mem (hs : s.Sound) {shape : Shape} {item : Row} (h : shape.Gives s spec item) :
    item ∈ s.rows shape.itemTable := by
  obtain ⟨row, hrow, rfl, -⟩ := h
  exact shape.itemOf_mem hs hrow

theorem mem_matching_iff (hs : s.Sound) (shape : Shape) {row : Row} :
    row ∈ shape.matching s spec ↔ row ∈ s.rows shape.table ∧ spec.Selects s shape row := by
  rw [matching, List.mem_filter]
  exact and_congr_right fun hrow => passes_iff_selects hs shape hrow spec

/-- **The items of a result are those that the filter gives.** -/
theorem mem_itemsOf_iff (hs : s.Sound) (shape : Shape) {item : Row} :
    item ∈ shape.itemsOf s spec ↔ shape.Gives s spec item := by
  unfold itemsOf Gives
  simp only [List.mem_map, List.mem_mergeSort]
  constructor
  · rintro ⟨row, hrow, rfl⟩
    obtain ⟨hrow, hselects⟩ :=
      (mem_matching_iff hs shape).1 (kept_subset_matching shape s spec hrow)
    exact ⟨row, hrow, rfl, hselects⟩
  · rintro ⟨row, hrow, rfl, hselects⟩
    have hmatching := (mem_matching_iff hs shape).2 ⟨hrow, hselects⟩
    cases shape with
    | albums | tracks | albumTracks => exact ⟨row, hmatching, rfl⟩
    | headers =>
        -- the track that is kept may be another one of the same album
        obtain ⟨other, hother, hid⟩ := List.mem_map.1
          ((mem_itemId_kept_iff hs headers spec).2 (List.mem_map_of_mem hmatching))
        refine ⟨other, hother, ?_⟩
        change other.value "album_id" = row.value "album_id" at hid
        unfold itemOf Store.ownerOf
        rw [hid]

/-! ## The order of items -/

/-- Albums are sorted by the order of albums. -/
theorem mayPrecede_albums (hs : s.Sound) (spec : FilterSpec) {a b : Row}
    (ha : a ∈ s.rows .albums) (hb : b ∈ s.rows .albums) :
    albums.mayPrecede s spec a b = (albumsOrder s spec.sort a b).isLE := by
  have hvalue : ∀ row, ∀ k ∈ albumOrder spec.sort,
      albums.rowValue s spec k row = albumValue s k row :=
    fun row => eval_albumOrder albums s spec.sort row _
  have hcomparable : ∀ row ∈ s.rows .albums, ∀ k ∈ albumOrder spec.sort,
      (albums.rowValue s spec k row).equalsItself = true := by
    intro row hrow k hk
    rw [hvalue row k hk]
    exact comparable_albumValue hs spec.sort hrow k hk
  rw [mayPrecede_eq albums spec (hcomparable a ha) (hcomparable b hb)]
  exact congrArg Ordering.isLE (rowOrder_congr (hvalue a) (hvalue b))

/-- Items that are tied are the same. -/
theorem eq_of_itemOrder_eq (hs : s.Sound) (shape : Shape) {sort : SortOrder} {a b : Row}
    (ha : a ∈ s.rows shape.itemTable) (hb : b ∈ s.rows shape.itemTable)
    (h : shape.itemOrder s sort a b = .eq) : a = b := by
  cases shape with
  | albums | headers => exact eq_of_albumsOrder_eq hs ha hb h
  | tracks | albumTracks => exact eq_of_tracksOrder_eq hs ha hb h

/-- A query for albums or tracks sorts what matches. -/
theorem pairwise_matching (hs : s.Sound) {shape : Shape} (hitem : shape.itemTable = shape.table)
    (hprecede : ∀ a ∈ s.rows shape.table, ∀ b ∈ s.rows shape.table,
      shape.mayPrecede s spec a b = (shape.itemOrder s spec.sort a b).isLE) :
    ((shape.matching s spec).mergeSort (shape.mayPrecede s spec)).Pairwise fun a b =>
      shape.itemOrder s spec.sort a b = .lt := by
  have hmem : ∀ row ∈ (shape.matching s spec).mergeSort (shape.mayPrecede s spec),
      row ∈ s.rows shape.table :=
    fun row hrow => (List.mem_filter.1 (List.mem_mergeSort.1 hrow)).1
  refine pairwise_lt_of_sorted (pairwise_mergeSort_of_eq ?_) ?_ ?_
  · intro a ha b hb
    exact hprecede a (List.mem_filter.1 ha).1 b (List.mem_filter.1 hb).1
  · exact (List.mergeSort_perm _ _).nodup_iff.2 ((hs.nodup_rows shape.table).filter _)
  · intro a ha b hb
    exact eq_of_itemOrder_eq hs shape (hitem ▸ hmem a ha) (hitem ▸ hmem b hb)

theorem itemsOf_eq_mergeSort {shape : Shape} (hshape : shape ≠ headers) (s : Store)
    (spec : FilterSpec) : shape.itemsOf s spec =
      (shape.matching s spec).mergeSort (shape.mayPrecede s spec) := by
  cases shape with
  | headers => exact absurd rfl hshape
  | albums | tracks | albumTracks => exact List.map_id _

/-- **Each item of a result stands before the next strictly.** -/
theorem pairwise_itemsOf (hs : s.Sound) (shape : Shape) (spec : FilterSpec) :
    (shape.itemsOf s spec).Pairwise fun a b => shape.itemOrder s spec.sort a b = .lt := by
  cases shape with
  | albums =>
      rw [itemsOf_eq_mergeSort (by simp)]
      exact pairwise_matching hs rfl fun a ha b hb => mayPrecede_albums hs spec ha hb
  | tracks =>
      rw [itemsOf_eq_mergeSort (by simp)]
      exact pairwise_matching hs rfl fun a ha b hb => mayPrecede_tracks hs spec ha hb
  | albumTracks id =>
      rw [itemsOf_eq_mergeSort (by simp)]
      exact pairwise_matching hs rfl fun a ha b hb => mayPrecede_tracks hs spec ha hb
  | headers => exact List.pairwise_map.2 (pairwise_headers hs spec)

theorem nodup_itemsOf (hs : s.Sound) (shape : Shape) (spec : FilterSpec) :
    (shape.itemsOf s spec).Nodup :=
  (pairwise_itemsOf hs shape spec).nodup

/-! ## What is shown of an item -/

/-- An item under the names that its columns go by. -/
def shownScope (shape : Shape) (s : Store) (item : Row) : Scope :=
  match shape with
  | albums | headers => [("a", item)]
  | tracks | albumTracks _ => [("a", s.ownerOf item), ("t", item)]

/-- The row for an item. -/
def shown (shape : Shape) (s : Store) (item : Row) : Row :=
  shape.items.flatMap fun column => column.eval s.tables (shape.shownScope s item)

section Columns

variable {tables tables' : Tables} {scope scope' : Scope}

theorem eval_named_congr {source : String} (h : scope.lookup source = scope'.lookup source)
    (column as : String) :
    (named source column as).eval tables scope = (named source column as).eval tables' scope' := by
  show [_] = [_]
  rw [Term.eval, Term.eval, eval_col, eval_col, h]

/-- What is shown of an album depends on the album alone. -/
theorem eval_albumColumns_congr (h : scope.lookup "a" = scope'.lookup "a") :
    ∀ column ∈ albumColumns ++ coverPath :: albumCodes,
      column.eval tables scope = column.eval tables' scope' := by
  have hcover : coverPath.eval tables scope = coverPath.eval tables' scope' := by
    show [(_, Term.eval tables scope _)] = [(_, Term.eval tables' scope' _)]
    have hcol : ∀ column, (Expr.col "a" column).eval scope = (Expr.col "a" column).eval scope' := by
      intro column
      rw [eval_col, eval_col, h]
    simp only [Term.eval, Plain.holds, Plain.eval, Condition.eval, hcol]
    rfl
  have hnamed : ∀ column as, (named "a" column as).eval tables scope =
      (named "a" column as).eval tables' scope' := eval_named_congr h
  intro column hcolumn
  simp only [albumColumns, albumCodes, List.cons_append, List.nil_append, List.mem_cons,
    List.not_mem_nil, or_false] at hcolumn
  rcases hcolumn with rfl | rfl | rfl | rfl | rfl | rfl | rfl <;>
    first | exact hcover | exact hnamed ..

/-- Whether a table has a row for a track is a matter of the rows that it has. -/
theorem eval_trackHas (table as : String) (has : as ≠ "t") :
    (trackHas table as).eval tables scope = some (decide (∃ row ∈ tables table,
      (equal (row.value "track_id") (((scope.lookup "t").getD []).value "id")).holds = true)) := by
  have hcondition : ∀ row, Condition.allHold Empty.elim ((as, row) :: scope)
      [.equals (.col as "track_id") (.col "t" "id")] =
        (equal (row.value "track_id") (((scope.lookup "t").getD []).value "id")).holds := by
    intro row
    have hother : ((as, row) :: scope).lookup "t" = scope.lookup "t" := by
      rw [List.lookup_cons, beq_false_of_ne has.symm]
    unfold Condition.allHold
    rw [List.all_cons, List.all_nil, Bool.and_true, Condition.eval, eval_col, eval_col, hother,
      List.lookup_cons_self, Option.getD_some]
  have hfound : (((tables table).map fun row => (as, row) :: scope).filter fun inner =>
      Condition.allHold Empty.elim inner [.equals (.col as "track_id") (.col "t" "id")]) =
        ((tables table).filter fun row => (equal (row.value "track_id")
          (((scope.lookup "t").getD []).value "id")).holds).map fun row => (as, row) :: scope := by
    rw [List.filter_map]
    exact congrArg _ (List.filter_congr fun row _ => hcondition row)
  show some (!(List.map (fun inner => (Expr.number 1).eval inner)
    (((tables table).map fun row => (as, row) :: scope).filter fun inner =>
      Condition.allHold Empty.elim inner
        [.equals (.col as "track_id") (.col "t" "id")])).isEmpty) = _
  rw [hfound, List.map_map]
  refine congrArg some (Bool.eq_iff_iff.2 ?_)
  simp [List.filter_eq_nil_iff]

/-- What is shown of a track depends on the track, its album and the rows that tables have. -/
theorem eval_items_congr (shape : Shape)
    (htables : ∀ name row, row ∈ tables name ↔ row ∈ tables' name)
    (halbum : scope.lookup "a" = scope'.lookup "a")
    (htrack : shape.itemTable = .tracks → scope.lookup "t" = scope'.lookup "t") :
    ∀ column ∈ shape.items, column.eval tables scope = column.eval tables' scope' := by
  have hcolumns : ∀ column ∈ albumColumns ++ coverPath :: albumCodes,
      column.eval tables scope = column.eval tables' scope' := eval_albumColumns_congr halbum
  have hnamed : shape.itemTable = .tracks → ∀ column as,
      (named "t" column as).eval tables scope = (named "t" column as).eval tables' scope' :=
    fun h => eval_named_congr (htrack h)
  have hsubtitles : shape.itemTable = .tracks →
      hasSubtitles.eval tables scope = hasSubtitles.eval tables' scope' := by
    intro h
    have hhas : ∀ table as, as ≠ "t" →
        (trackHas table as).eval tables scope = (trackHas table as).eval tables' scope' := by
      intro table as has
      rw [eval_trackHas table as has, eval_trackHas table as has, htrack h]
      simp only [htables]
    show [_] = [_]
    have hboth : ∀ t scope, Test.eval t scope
        (.anyOf (trackHas "subtitles" "s") [trackHas "remote_subtitle_sources" "rs"]) =
          ((trackHas "subtitles" "s").eval t scope).or
            ((trackHas "remote_subtitle_sources" "rs").eval t scope) := fun t scope => rfl
    rw [Term.eval, Term.eval, hboth, hboth, hhas _ _ (by decide), hhas _ _ (by decide)]
  cases shape with
  | albums =>
      intro column hcolumn
      obtain rfl := List.mem_singleton.1 hcolumn
      show (scope.lookup "a").getD [] = (scope'.lookup "a").getD []
      rw [halbum]
  | headers =>
      intro column hcolumn
      rcases List.mem_cons.1 hcolumn with rfl | hcolumn
      · exact eval_named_congr halbum ..
      · exact hcolumns column hcolumn
  | tracks | albumTracks =>
      intro column hcolumn
      unfold items at hcolumn
      rw [List.append_assoc] at hcolumn
      rcases List.mem_append.1 hcolumn with hcolumn | hcolumn
      · simp only [List.mem_cons, List.not_mem_nil, or_false] at hcolumn
        rcases hcolumn with rfl | rfl | rfl | rfl | rfl | rfl | rfl <;>
          first | exact hsubtitles rfl | exact hnamed rfl ..
      · exact hcolumns column hcolumn

end Columns

/-- A row of a query shows its item, whatever the sort. -/
theorem present_eq_shown (shape : Shape) (s : Store) (spec : FilterSpec) (row : Row) :
    shape.present s spec row = shape.shown s (shape.itemOf s row) := by
  refine List.flatMap_congr (eval_items_congr shape (fun _ _ => Iff.rfl) ?_ ?_)
  · rw [lookup_scope shape s spec.sort row (by decide)]
    cases shape <;> rfl
  · intro hitem
    rw [lookup_scope shape s spec.sort row (by decide)]
    cases shape with
    | albums | headers => cases hitem
    | tracks | albumTracks => rfl

/-- **The rows of a query are the items of its result as they are shown.** -/
theorem rows_eq_map_shown (hs : s.Sound) (shape : Shape) (spec : FilterSpec) :
    (LibraryQuery.compile shape spec).statement.rows s.tables =
      (shape.itemsOf s spec).map (shape.shown s) := by
  rw [rows_compile hs, itemsOf, List.map_map]
  exact List.map_congr_left fun row _ => present_eq_shown shape s spec row

theorem shown_albums (s : Store) (album : Row) : albums.shown s album = album :=
  List.flatMap_singleton _ _

/-- The rows of a query for albums are the albums themselves. -/
theorem rows_albums_eq_itemsOf (hs : s.Sound) (spec : FilterSpec) :
    (LibraryQuery.compile .albums spec).statement.rows s.tables = albums.itemsOf s spec := by
  have hshown : albums.shown s = id := funext fun album => shown_albums s album
  rw [rows_eq_map_shown hs, hshown, List.map_id]

/-- A row tells the number of its item. -/
theorem value_shown (shape : Shape) (s : Store) (item : Row) :
    (shape.shown s item).value shape.idColumn = item.value "id" := by
  cases shape with
  | albums => rw [shown_albums]; rfl
  | headers =>
      refine (value_flatMap_named s.tables _ "a" "id" "album_id" _).trans ?_
      rw [eval_col]
      rfl
  | tracks | albumTracks =>
      refine (value_flatMap_named s.tables _ "t" "id" "track_id" _).trans ?_
      rw [eval_col]
      rfl

/-- The rows of a query for albums are those that the filter selects, in some order. -/
theorem rows_albums_perm (hs : s.Sound) {p : Row → Prop}
    [DecidablePred p] (h : ∀ album ∈ s.rows .albums, spec.Selects s .albums album ↔ p album) :
    ((LibraryQuery.compile .albums spec).statement.rows s.tables).Perm
      ((s.rows .albums).filter p) := by
  have hpresent : albums.present s spec = id := funext (present_albums s spec)
  have hkept : albums.kept s spec = (s.rows .albums).filter p := by
    refine List.filter_congr fun album halbum => ?_
    rw [Bool.eq_iff_iff, passes_iff_selects hs albums halbum, h album halbum, decide_eq_true_eq]
  have hperm := rows_compile_perm hs albums spec
  rwa [hpresent, List.map_id, hkept] at hperm

end Shape

end AudioLibrary
