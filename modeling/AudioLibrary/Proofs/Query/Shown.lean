import AudioLibrary.Proofs.Query.Arrangement

/-!
# What the rows of a query show

The rows of a query for tracks or headers show columns of a track and of its album under names of
their own.  `present_tracks` and `present_headers` write such a row out, in terms of the stored rows
alone: neither the filter nor the order can be seen in it.

Two columns are computed.  The cover is the thumbnail where there is one, `coverValue`, and whether
a track has subtitles is looked up in both tables of subtitles, `Store.subtitled`.
-/

namespace AudioLibrary

open AudioLibrary.Relational

/-! ## The cover -/

instance (v : Value) : Decidable (Predicate.IsPath v) := by
  unfold Predicate.IsPath
  infer_instance

/-- What is shown as the cover of an album. -/
def coverValue (album : Row) : Value :=
  if Predicate.IsPath (album.value "cover_thumb_path") then album.value "cover_thumb_path"
  else album.value "cover_path"

theorem eval_coverPath {scope : Scope} {album : Row} (halbum : scope.lookup "a" = some album)
    (tables : Tables) :
    Shape.coverPath.eval tables scope = [("cover_path", coverValue album)] := by
  have hcolumn (column : String) : (Expr.col "a" column).eval scope = album.value column := by
    rw [eval_col, halbum, Option.getD_some]
  have hthumb : Plain.holds scope (.both (.isNotNull (.col "a" "cover_thumb_path"))
      (.differs (.col "a" "cover_thumb_path") (.literal ""))) =
        decide (Predicate.IsPath (album.value "cover_thumb_path")) := by
    rw [Bool.eq_iff_iff, decide_eq_true_eq, ← hcolumn]
    exact Predicate.holds_filled_iff
  show [("cover_path", if Plain.holds scope _ then _ else _)] = _
  rw [hthumb, hcolumn, hcolumn]
  unfold coverValue
  simp only [decide_eq_true_eq]

/-! ## Subtitles -/

/-- Whether one of the tables of subtitles has a row for a track. -/
def Store.subtitled (s : Store) (track : Row) : Bool :=
  [Table.subtitles, .remoteSubtitles].any fun t =>
    (s.rows t).any fun row => (equal (row.value "track_id") (track.value "id")).holds

theorem eval_hasSubtitles {s : Store} {scope : Scope} {track : Row}
    (htrack : scope.lookup "t" = some track) :
    Shape.hasSubtitles.eval s.tables scope =
      [("has_subtitles", .integer (if s.subtitled track then 1 else 0))] := by
  have hhas : ∀ t : Table, ∀ as, as ≠ "t" → (Shape.trackHas t.name as).eval s.tables scope =
      some ((s.rows t).any fun row =>
        (equal (row.value "track_id") (track.value "id")).holds) := by
    intro t as has
    rw [Shape.eval_trackHas t.name as has, htrack, Store.tables_name, List.any_eq, Option.getD_some]
  show [("has_subtitles", (Truth.or (Test.eval s.tables scope (Shape.trackHas Table.subtitles.name
    "s")) (Test.eval s.tables scope (Shape.trackHas Table.remoteSubtitles.name
      "rs"))).toValue)] = _
  rw [hhas _ _ (by decide), hhas _ _ (by decide)]
  unfold Store.subtitled
  rw [List.any_cons, List.any_cons, List.any_nil, Bool.or_false]
  cases (s.rows .subtitles).any _ <;> cases (s.rows .remoteSubtitles).any _ <;> rfl

/-- A row for a track is one that refers to its number. -/
theorem Store.subtitled_iff {s : Store} (hs : s.Sound) {track : Row} {i : Int64}
    (hid : track.value "id" = .integer i) :
    s.subtitled track = true ↔
      ∃ t ∈ [Table.subtitles, .remoteSubtitles], ∃ row ∈ s.rows t,
        row.value "track_id" = .integer i := by
  have hrefers : ∀ t ∈ [Table.subtitles, .remoteSubtitles], ("track_id", .tracks) ∈ t.references :=
    by decide
  unfold subtitled
  simp only [List.any_eq_true]
  refine exists_congr fun t => and_congr_right fun ht => exists_congr fun row =>
    and_congr_right fun hrow => ?_
  obtain ⟨j, hj, -⟩ := hs.exists_referred t "track_id" .tracks (hrefers t ht) hrow
  rw [hid, hj, equal_integer, Truth.holds_some]
  simp

/-! ## Rows -/

/-- What is shown of an album beside its number. -/
def albumCells (album : Row) : Row :=
  [("album_title", album.value "title"), ("circle", album.value "circle"),
    ("cv", album.value "cv"), ("cover_url", album.value "cover_url"),
    ("cover_path", coverValue album), ("work_id", album.value "work_id"),
    ("rj_code", album.value "rj_code")]

/-- What a header shows of an album. -/
def headerCells (album : Row) : Row := ("album_id", album.value "id") :: albumCells album

/-- What a list of tracks shows of a track. -/
def trackCells (s : Store) (track : Row) : Row :=
  [("track_id", track.value "id"), ("album_id", track.value "album_id"),
    ("track_title", track.value "title"), ("track_path", track.value "path"),
    ("duration", track.value "duration"),
    ("has_subtitles", .integer (if s.subtitled track then 1 else 0)),
    ("track_group", track.value "group_label")] ++ albumCells (s.ownerOf track)

namespace Shape

/-- What all items on an album but its number come to. -/
theorem eval_albumItems {scope : Scope} {album : Row} (halbum : scope.lookup "a" = some album)
    (tables : Tables) :
    ((albumColumns ++ coverPath :: albumCodes).flatMap fun item => item.eval tables scope) =
      albumCells album := by
  have hcolumn (column as : String) :
      (named "a" column as).eval tables scope = [(as, album.value column)] := by
    show [(as, (Expr.col "a" column).eval scope)] = _
    rw [eval_col, halbum, Option.getD_some]
  have hcover := eval_coverPath halbum tables
  simp only [albumColumns, albumCodes, List.cons_append, List.nil_append, List.flatMap_cons,
    List.flatMap_nil, hcolumn, hcover]
  rfl

variable {s : Store}

theorem present_headers (s : Store) (spec : FilterSpec) (track : Row) :
    headers.present s spec track = headerCells (s.ownerOf track) := by
  have halbum := lookup_album headers s spec.sort track
  have hid := eval_albumId_scope headers s spec.sort track
  show ("album_id", (Expr.col "a" "id").eval (headers.scope s spec.sort track)) ::
    ((albumColumns ++ coverPath :: albumCodes).flatMap fun item =>
      item.eval s.tables (headers.scope s spec.sort track)) = _
  rw [eval_albumItems halbum, hid]
  rfl

theorem present_tracks (s : Store) (spec : FilterSpec) (track : Row) :
    tracks.present s spec track = trackCells s track := by
  have halbum := lookup_album tracks s spec.sort track
  have htrack := lookup_subject tracks s spec.sort track
  have hcolumn (column as : String) :
      (named "t" column as).eval s.tables (tracks.scope s spec.sort track) =
        [(as, track.value column)] := by
    show [(as, (Expr.col "t" column).eval _)] = _
    rw [eval_col]
    exact congrArg (fun row? : Option Row => [(as, (row?.getD []).value column)]) htrack
  have hitems : tracks.items = [named "t" "id" "track_id", named "t" "album_id" "album_id",
      named "t" "title" "track_title", named "t" "path" "track_path",
      named "t" "duration" "duration", hasSubtitles, named "t" "group_label" "track_group"] ++
        (albumColumns ++ coverPath :: albumCodes) := rfl
  show (tracks.items.flatMap fun item =>
    item.eval s.tables (tracks.scope s spec.sort track)) = _
  rw [hitems, List.flatMap_append, eval_albumItems halbum]
  simp only [List.flatMap_cons, List.flatMap_nil, hcolumn, eval_hasSubtitles htrack]
  rfl

end Shape

end AudioLibrary
