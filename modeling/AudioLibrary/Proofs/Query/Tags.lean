import AudioLibrary.Proofs.Query.Scopes

/-!
# Tags that count

The tags of an album stand in one table; those of a track in another, and the tags of its album
count as its own.  `tagsOf` says so of one row.  A statement reads the same off `pairs`, the
relation of items and their tags, where a tag that a track shares with its album stands twice.

## Main statements

* `mem_tagsOf_iff` : the tags of a row are those that the relation pairs with it.
-/

namespace AudioLibrary

open AudioLibrary.Relational

namespace Store

/-- The tags of an album. -/
def albumTags (s : Store) (album : Row) : List Value :=
  ((s.rows .albumTags).filter fun pair => pair.value "album_id" = album.value "id").map
    fun pair => pair.value "tag_id"

/-- The tags of a track, its album's included. -/
def trackTags (s : Store) (track : Row) : List Value :=
  (((s.rows .trackTags).filter fun pair => pair.value "track_id" = track.value "id").map
    fun pair => pair.value "tag_id") ++ s.albumTags (s.ownerOf track)

end Store

namespace TagScope

variable {s : Store}

/-- The table of the items. -/
def table : TagScope → Table
  | album => .albums
  | track => .tracks

/-- The name under which the item is in scope. -/
def subjectName : TagScope → String
  | album => "a"
  | track => "t"

/-- The tags that count for an item. -/
def tagsOf (tags : TagScope) (s : Store) (row : Row) : List Value :=
  match tags with
  | album => s.albumTags row
  | track => s.trackTags row

/-- The pairs of items and tags. -/
def pairs (tags : TagScope) (s : Store) : List Row :=
  match tags with
  | album => s.rows .albumTags
  | track => Union.rows s.tables effectiveTags

theorem subject_eq (tags : TagScope) : tags.subject = .col tags.subjectName "id" := by
  cases tags <;> rfl

/-- Items have numbers. -/
theorem number_of_mem (hs : s.Sound) (tags : TagScope) {row : Row}
    (hrow : row ∈ s.rows tags.table) : ∃ i, row.value "id" = .integer i := by
  cases tags with
  | album => exact hs.numbered .albums row hrow
  | track => exact hs.numbered .tracks row hrow

theorem scopes_relation (tags : TagScope) (s : Store) (outer : Scope) :
    Source.scopes s.tables (Union.rows s.tables) outer { relation := tags.relation } =
      (tags.pairs s).map fun pair => ("et", pair) :: outer := by
  cases tags with
  | album => exact congrArg (List.map _) (Store.tables_name s .albumTags)
  | track => rfl

/-- The tags of tracks themselves, as the derived relation lists them. -/
def ownPair (own : Row) : Row :=
  [("item_id", own.value "track_id"), ("tag_id", own.value "tag_id")]

/-- The tag of an album at one of its tracks. -/
def inheritedPair (row inherited : Row) : Row :=
  [("item_id", row.value "id"), ("tag_id", inherited.value "tag_id")]

/-- The rows of the first branch. -/
theorem rows_own (s : Store) :
    Branch.rows s.tables
      { columns := [⟨.column none "track_id", some "item_id"⟩, ⟨.column none "tag_id", none⟩]
        source := .ofTable "track_tag" } = (s.rows .trackTags).map ownPair := by
  have hscopes : Source.scopes s.tables Empty.elim [] (.ofTable "track_tag") =
      (s.rows .trackTags).map fun own => [("track_tag", own)] :=
    congrArg (List.map fun own => [("track_tag", own)]) (Store.tables_name s .trackTags)
  unfold Branch.rows
  rw [hscopes, List.map_map]
  refine List.map_congr_left fun own _ => ?_
  simp [NamedExpr.columnName, Expr.eval, Scope.value_none, ownPair]

/-- The rows of the second branch. -/
theorem rows_inherited (s : Store) :
    Branch.rows s.tables
      { columns := [⟨.col "t2" "id", some "item_id"⟩, ⟨.col "at2" "tag_id", some "tag_id"⟩]
        source :=
          { relation := .table ⟨"tracks", some "t2"⟩
            joins := [{ table := ⟨"album_tag", some "at2"⟩
                        on := .equals (.col "at2" "album_id") (.col "t2" "album_id") }] } } =
      (s.rows .tracks).flatMap fun row =>
        ((s.rows .albumTags).filter fun inherited =>
          (equal (inherited.value "album_id") (row.value "album_id")).holds).map
          (inheritedPair row) := by
  have hjoin : ∀ row : Row, Join.extend s.tables
      { table := ⟨"album_tag", some "at2"⟩
        on := .equals (.col "at2" "album_id") (.col "t2" "album_id") } [("t2", row)] =
      ((s.rows .albumTags).filter fun inherited =>
        (equal (inherited.value "album_id") (row.value "album_id")).holds).map
        fun inherited => [("at2", inherited), ("t2", row)] := by
    intro row
    unfold Join.extend
    rw [show s.tables (TableRef.mk "album_tag" (some "at2")).name = s.rows .albumTags from
      Store.tables_name s .albumTags]
    simp only [Bool.false_and, Bool.false_eq_true, if_false, List.filter_map]
    rfl
  have hscopes : Source.scopes s.tables Empty.elim []
      { relation := .table ⟨"tracks", some "t2"⟩
        joins := [{ table := ⟨"album_tag", some "at2"⟩
                    on := .equals (.col "at2" "album_id") (.col "t2" "album_id") }] } =
      (s.rows .tracks).flatMap fun row => Join.extend s.tables
        { table := ⟨"album_tag", some "at2"⟩
          on := .equals (.col "at2" "album_id") (.col "t2" "album_id") } [("t2", row)] := by
    rw [← show s.tables "tracks" = s.rows .tracks from Store.tables_name s .tracks]
    exact List.flatMap_map ..
  unfold Branch.rows
  rw [hscopes, List.map_flatMap]
  simp only [hjoin, List.map_map]
  rfl

theorem pairs_track (s : Store) :
    track.pairs s = (s.rows .trackTags).map ownPair ++
      (s.rows .tracks).flatMap fun row =>
        ((s.rows .albumTags).filter fun inherited =>
          (equal (inherited.value "album_id") (row.value "album_id")).holds).map
          (inheritedPair row) := by
  show Branch.rows s.tables _ ++ (Branch.rows s.tables _ ++ []) = _
  rw [List.append_nil, rows_own, rows_inherited]

/-- The pairs of tracks: their own tags, and those of their albums. -/
theorem mem_pairs_track_iff {pair : Row} :
    pair ∈ track.pairs s ↔
      (∃ own ∈ s.rows .trackTags, pair = ownPair own) ∨
      ∃ row ∈ s.rows .tracks, ∃ inherited ∈ s.rows .albumTags,
        (equal (inherited.value "album_id") (row.value "album_id")).holds = true ∧
        pair = inheritedPair row inherited := by
  rw [pairs_track, List.mem_append, List.mem_map, List.mem_flatMap]
  simp only [List.mem_map, List.mem_filter]
  constructor
  · rintro (⟨own, hown, rfl⟩ | ⟨row, hrow, inherited, ⟨hinherited, hequal⟩, rfl⟩)
    · exact Or.inl ⟨own, hown, rfl⟩
    · exact Or.inr ⟨row, hrow, inherited, hinherited, hequal, rfl⟩
  · rintro (⟨own, hown, rfl⟩ | ⟨row, hrow, inherited, hinherited, hequal, rfl⟩)
    · exact Or.inl ⟨own, hown, rfl⟩
    · exact Or.inr ⟨row, hrow, inherited, ⟨hinherited, hequal⟩, rfl⟩

/-- Pairs are pairs of numbers. -/
theorem numbers_of_mem_pairs (hs : s.Sound) (tags : TagScope) {pair : Row}
    (hpair : pair ∈ tags.pairs s) :
    (∃ i, pair.value tags.itemColumn = .integer i) ∧ ∃ j, pair.value "tag_id" = .integer j := by
  cases tags with
  | album =>
      obtain ⟨i, hi, -⟩ := hs.exists_referred .albumTags "album_id" .albums (by decide) hpair
      obtain ⟨j, hj, -⟩ := hs.exists_referred .albumTags "tag_id" .tags (by decide) hpair
      exact ⟨⟨i, hi⟩, ⟨j, hj⟩⟩
  | track =>
      rcases mem_pairs_track_iff.1 hpair with
        ⟨own, hown, rfl⟩ | ⟨row, hrow, inherited, hinherited, -, rfl⟩
      · obtain ⟨i, hi, -⟩ := hs.exists_referred .trackTags "track_id" .tracks (by decide) hown
        obtain ⟨j, hj, -⟩ := hs.exists_referred .trackTags "tag_id" .tags (by decide) hown
        exact ⟨⟨i, hi⟩, ⟨j, hj⟩⟩
      · obtain ⟨i, hi⟩ := hs.numbered .tracks row hrow
        obtain ⟨j, hj, -⟩ := hs.exists_referred .albumTags "tag_id" .tags (by decide) hinherited
        exact ⟨⟨i, hi⟩, ⟨j, hj⟩⟩

/-- **The tags of a row are those that the relation pairs with it.** -/
theorem mem_tagsOf_iff (hs : s.Sound) (tags : TagScope) {row : Row}
    (hrow : row ∈ s.rows tags.table) {tag : Value} :
    tag ∈ tags.tagsOf s row ↔
      ∃ pair ∈ tags.pairs s, pair.value tags.itemColumn = row.value "id" ∧
        pair.value "tag_id" = tag := by
  cases tags with
  | album =>
      show tag ∈ s.albumTags row ↔ ∃ pair ∈ s.rows .albumTags, _
      simp [Store.albumTags, itemColumn, and_assoc]
  | track =>
      have howner := hs.value_id_ownerOf hrow
      show tag ∈ s.trackTags row ↔ ∃ pair ∈ track.pairs s, _
      unfold Store.trackTags Store.albumTags
      rw [List.mem_append, List.mem_map, List.mem_map]
      simp only [List.mem_filter, decide_eq_true_eq, howner]
      constructor
      · rintro (⟨own, ⟨hown, hitem⟩, rfl⟩ | ⟨inherited, ⟨hinherited, halbum⟩, rfl⟩)
        · exact ⟨ownPair own, mem_pairs_track_iff.2 (Or.inl ⟨own, hown, rfl⟩), hitem, rfl⟩
        · obtain ⟨i, hi, -⟩ :=
            hs.exists_referred .albumTags "album_id" .albums (by decide) hinherited
          have hequal : (equal (inherited.value "album_id") (row.value "album_id")).holds =
              true := by
            rw [← halbum, hi]
            simp
          exact ⟨inheritedPair row inherited, mem_pairs_track_iff.2
            (Or.inr ⟨row, hrow, inherited, hinherited, hequal, rfl⟩), rfl, rfl⟩
      · rintro ⟨pair, hpair, hitem, rfl⟩
        rcases mem_pairs_track_iff.1 hpair with
          ⟨own, hown, rfl⟩ | ⟨other, hother, inherited, hinherited, hequal, rfl⟩
        · exact Or.inl ⟨own, ⟨hown, hitem⟩, rfl⟩
        · have hsame : other = row := hs.eq_of_number hother hrow hitem
          subst hsame
          obtain ⟨i, hi, -⟩ :=
            hs.exists_referred .albumTags "album_id" .albums (by decide) hinherited
          obtain ⟨j, hj, -⟩ := hs.exists_referred .tracks "album_id" .albums (by decide) hother
          have halbum : inherited.value "album_id" = other.value "album_id" := by
            rw [hi, hj] at hequal ⊢
            simpa using hequal
          exact Or.inr ⟨inherited, ⟨hinherited, halbum⟩, rfl⟩

end TagScope

end AudioLibrary
