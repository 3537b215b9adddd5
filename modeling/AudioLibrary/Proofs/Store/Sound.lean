import AudioLibrary.Proofs.Relational.Condition
import AudioLibrary.Store.Basic
import Mathlib.Data.List.Nodup
import Mathlib.Data.List.Pairwise

/-!
# What the schema promises

`Store.Sound` is what the schema promises of the rows of a store: every row has its number, what
must have a value has one, no two rows agree in a key, what a row refers to is there, and no value
is incomparable with itself.  `Store.Legible` says more of texts: text columns hold texts, and none
of them a U+0000.

Row numbers make joins plain.  The rows that a row is joined to by number are one row or none,
`byNumber`; a track has one album, `ownerOf`, and an album at most one row of play statistics,
`statsOf`.
-/

namespace AudioLibrary.Store

open AudioLibrary.Relational

/-- What the schema promises of the rows of a store. -/
structure Sound (s : Store) : Prop where
  numbered : ∀ t, ∀ row ∈ s.rows t, ∃ n, row.value t.numberColumn = .integer n
  required : ∀ t, ∀ row ∈ s.rows t, ∀ c ∈ t.columns, c.required = true →
    row.value c.name ≠ .null
  unique : ∀ t, (s.rows t).Pairwise fun row other =>
    ∀ k ∈ t.keys, agree k.columns row other = false
  referring : ∀ t, ∀ row ∈ s.rows t, s.refersWell t row = true
  comparable : ∀ t, ∀ row ∈ s.rows t, ∀ c ∈ t.columns, (row.value c.name).equalsItself = true

/-- Whether a value is a text without a U+0000. -/
def IsPlainText (v : Value) : Prop := ∃ text, v = .text text ∧ '\x00' ∉ text.toList

/-- Text columns hold texts, and none of them a U+0000. -/
def Legible (s : Store) : Prop :=
  ∀ t, ∀ row ∈ s.rows t, ∀ c ∈ t.columns, c.affinity = .text →
    IsPlainText (row.value c.name) ∨ (c.required = false ∧ row.value c.name = .null)

/-! ## Checking a store -/

theorem forall_table_iff {p : Table → Prop} : (∀ t, p t) ↔ ∀ t ∈ Table.all, p t :=
  ⟨fun h t _ => h t, fun h t => h t (Table.mem_all t)⟩

instance (p : Table → Prop) [DecidablePred p] : Decidable (∀ t, p t) :=
  decidable_of_iff _ forall_table_iff.symm

instance (v : Value) : Decidable (∃ n, v = .integer n) :=
  match v with
  | .integer n => isTrue ⟨n, rfl⟩
  | .null | .real _ | .text _ | .blob _ => isFalse (by rintro ⟨n, h⟩; cases h)

instance (v : Value) : Decidable (IsPlainText v) :=
  match v with
  | .text text =>
      decidable_of_iff ('\x00' ∉ text.toList)
        ⟨fun h => ⟨text, rfl, h⟩, by rintro ⟨other, h, hother⟩; cases h; exact hother⟩
  | .null | .real _ | .integer _ | .blob _ => isFalse (by rintro ⟨text, h, -⟩; cases h)

instance (s : Store) : Decidable s.Sound :=
  decidable_of_iff
    ((∀ t, ∀ row ∈ s.rows t, ∃ n, row.value t.numberColumn = .integer n) ∧
      (∀ t, ∀ row ∈ s.rows t, ∀ c ∈ t.columns, c.required = true →
        row.value c.name ≠ .null) ∧
      (∀ t, (s.rows t).Pairwise fun row other =>
        ∀ k ∈ t.keys, agree k.columns row other = false) ∧
      (∀ t, ∀ row ∈ s.rows t, s.refersWell t row = true) ∧
      ∀ t, ∀ row ∈ s.rows t, ∀ c ∈ t.columns, (row.value c.name).equalsItself = true)
    ⟨fun ⟨hnumbered, hrequired, hunique, hreferring, hcomparable⟩ =>
        ⟨hnumbered, hrequired, hunique, hreferring, hcomparable⟩,
      fun h => ⟨h.numbered, h.required, h.unique, h.referring, h.comparable⟩⟩

instance (s : Store) : Decidable s.Legible := by
  unfold Legible
  infer_instance

/-- A small store: an album with a title, a track of it, and a tag that both carry. -/
def sample (title : String) : Store where
  rows
    | .albums =>
        [newRow .albums 1
          [("title", .text title), ("path", .text "shelf"), ("cv", .text "Aoi Yuki, Hana")]]
    | .tags => [newRow .tags 1 [("name", .text "sleep"), ("name_normalized", .text "sleep")]]
    | .tracks =>
        [newRow .tracks 1
          [("album_id", .integer 1), ("title", .text "one"), ("path", .text "one.mp3")]]
    | .albumTags => [newRow .albumTags 1 [("album_id", .integer 1), ("tag_id", .integer 1)]]
    | .trackTags => [newRow .trackTags 1 [("track_id", .integer 1), ("tag_id", .integer 1)]]
    | _ => []

/-- Three albums of two circles, and four tracks of them. -/
def shelf : Store where
  rows
    | .albums =>
        [newRow .albums 1
            [("title", .text "Night"), ("path", .text "shelf/1"), ("circle", .text "Rain")],
          newRow .albums 2
            [("title", .text "Day"), ("path", .text "shelf/2"), ("circle", .text "Rain")],
          newRow .albums 3
            [("title", .text "Dusk"), ("path", .text "shelf/3"), ("circle", .text "Wind")]]
    | .tracks =>
        [newRow .tracks 1
            [("album_id", .integer 1), ("title", .text "one"), ("path", .text "1.mp3")],
          newRow .tracks 2
            [("album_id", .integer 3), ("title", .text "one"), ("path", .text "2.mp3")],
          newRow .tracks 3
            [("album_id", .integer 2), ("title", .text "one"), ("path", .text "3.mp3")],
          newRow .tracks 4
            [("album_id", .integer 1), ("title", .text "two"), ("path", .text "4.mp3")]]
    | _ => []

/-- A store of albums alone, numbered from one on.  Those without a title or a path get one. -/
def ofAlbums (albums : List Row) : Store where
  rows
    | .albums => albums.zipIdx.map fun (values, i) =>
        newRow .albums (.ofNat (i + 1))
          (values ++ [("title", .text "one"), ("path", .text "shelf")])
    | _ => []

example : (sample "one").Sound ∧ (sample "one").Legible ∧ shelf.Sound ∧ shelf.Legible := by decide

/-! ## Rows by their numbers -/

/-- A text column that must have a value holds a plain text. -/
theorem Legible.isPlainText {s : Store} (hl : s.Legible) (t : Table) (column : String)
    (hcolumn : ∃ c ∈ t.columns, c.name = column ∧ c.affinity = .text ∧ c.required = true)
    {row : Row} (hrow : row ∈ s.rows t) : IsPlainText (row.value column) := by
  obtain ⟨c, hc, rfl, haffinity, hrequired⟩ := hcolumn
  rcases hl t row hrow c hc haffinity with hplain | ⟨hoptional, -⟩
  · exact hplain
  · rw [hrequired] at hoptional
    exact absurd hoptional Bool.noConfusion

theorem tables_name (s : Store) (t : Table) : s.tables t.name = s.rows t := by
  unfold tables
  rw [Table.ofName?_name]

/-- The row with a number. -/
def byNumber (s : Store) (t : Table) (v : Value) : Option Row :=
  (s.rows t).find? fun row => (equal (row.value t.numberColumn) v).holds

/-- The album of a track. -/
def ownerOf (s : Store) (track : Row) : Row :=
  (s.byNumber .albums (track.value "album_id")).getD []

/-- The play statistics of an album; a row without columns if there are none. -/
def statsOf (s : Store) (album : Row) : Row :=
  (s.byNumber .playStats (album.value "id")).getD []

/-- At most one member of a list without repetitions satisfies a predicate that no two share. -/
private theorem filter_eq_toList_find? {α : Type} {p : α → Bool} {l : List α} (hnodup : l.Nodup)
    (h : ∀ a ∈ l, ∀ b ∈ l, p a = true → p b = true → a = b) : l.filter p = (l.find? p).toList := by
  induction l with
  | nil => rfl
  | cons a l ih =>
      obtain ⟨ha, hl⟩ := List.nodup_cons.1 hnodup
      by_cases hp : p a = true
      · rw [List.filter_cons_of_pos hp, List.find?_cons_of_pos hp, Option.toList_some]
        congr 1
        rw [List.filter_eq_nil_iff]
        intro b hb hpb
        exact ha (h a (by simp) b (by simp [hb]) hp hpb ▸ hb)
      · rw [List.filter_cons_of_neg hp, List.find?_cons_of_neg hp]
        exact ih hl fun b hb c hc => h b (by simp [hb]) c (by simp [hc])

/-- A column that refers to a table must have a value. -/
theorem exists_required_of_mem_references {t : Table} {r : String × Table}
    (hr : r ∈ t.references) : ∃ c ∈ t.columns, c.name = r.1 ∧ c.required = true := by
  revert r
  cases t <;> decide

namespace Sound

variable {s : Store}

/-! ## Numbers -/

theorem pairwise_number_ne (hs : s.Sound) (t : Table) :
    (s.rows t).Pairwise fun row other =>
      row.value t.numberColumn ≠ other.value t.numberColumn := by
  refine (hs.unique t).imp_of_mem ?_
  intro row other hrow _ hunique heq
  obtain ⟨n, hn⟩ := hs.numbered t row hrow
  have hagree := hunique t.numberKey (List.mem_cons_self ..)
  simp [agree, Table.numberKey, ← heq, hn] at hagree

theorem nodup_numbers (hs : s.Sound) (t : Table) :
    ((s.rows t).map fun row => row.value t.numberColumn).Nodup :=
  List.pairwise_map.2 (hs.pairwise_number_ne t)

theorem nodup_rows (hs : s.Sound) (t : Table) : (s.rows t).Nodup :=
  List.Nodup.of_map _ (hs.nodup_numbers t)

/-- A row is known by its number. -/
theorem eq_of_number (hs : s.Sound) {t : Table} {row other : Row} (hrow : row ∈ s.rows t)
    (hother : other ∈ s.rows t)
    (heq : row.value t.numberColumn = other.value t.numberColumn) : row = other :=
  List.inj_on_of_nodup_map (hs.nodup_numbers t) hrow hother heq

theorem holds_equal_number_iff (hs : s.Sound) {t : Table} {row : Row} (hrow : row ∈ s.rows t)
    (i : Int64) : (equal (row.value t.numberColumn) (.integer i)).holds = true ↔
      row.value t.numberColumn = .integer i := by
  obtain ⟨n, hn⟩ := hs.numbered t row hrow
  simp [hn]

/-- The rows with a number are one row or none. -/
theorem filter_number (hs : s.Sound) (t : Table) (i : Int64) :
    (s.rows t).filter (fun row => (equal (row.value t.numberColumn) (.integer i)).holds) =
      (s.byNumber t (.integer i)).toList := by
  refine filter_eq_toList_find? (hs.nodup_rows t) ?_
  intro row hrow other hother hrowi hotheri
  rw [hs.holds_equal_number_iff hrow] at hrowi
  rw [hs.holds_equal_number_iff hother] at hotheri
  exact hs.eq_of_number hrow hother (hrowi.trans hotheri.symm)

theorem byNumber_eq_some_iff (hs : s.Sound) {t : Table} {row : Row} {i : Int64} :
    s.byNumber t (.integer i) = some row ↔
      row ∈ s.rows t ∧ row.value t.numberColumn = .integer i := by
  rw [← Option.mem_toList, ← hs.filter_number t i, List.mem_filter]
  exact and_congr_right fun hrow => hs.holds_equal_number_iff hrow i

/-! ## References -/

/-- What a row refers to is a number, and the row with it is there. -/
theorem exists_referred (hs : s.Sound) (t : Table) (column : String) (target : Table)
    (href : (column, target) ∈ t.references) {row : Row} (hrow : row ∈ s.rows t) :
    ∃ i, row.value column = .integer i ∧
      ∃ other ∈ s.rows target, other.value target.numberColumn = .integer i := by
  have hwell := List.all_eq_true.1 (hs.referring t row hrow) (column, target) href
  obtain ⟨c, hc, hname, hrequired⟩ := exists_required_of_mem_references href
  have hnull := hs.required t row hrow c hc hrequired
  rw [hname] at hnull
  cases hvalue : row.value column with
  | integer i =>
      refine ⟨i, rfl, ?_⟩
      have hmem : i ∈ s.numbers target := by simpa [hvalue] using hwell
      obtain ⟨other, hother, hnumber⟩ := List.mem_filterMap.1 hmem
      refine ⟨other, hother, ?_⟩
      obtain ⟨n, hn⟩ := hs.numbered target other hother
      rw [number?, hn] at hnumber
      rw [hn]
      exact congrArg Value.integer (Option.some_inj.1 hnumber)
  | null => exact absurd hvalue hnull
  | _ => simp [hvalue] at hwell

/-- Every track has its album. -/
theorem byNumber_ownerOf (hs : s.Sound) {track : Row} (htrack : track ∈ s.rows .tracks) :
    s.byNumber .albums (track.value "album_id") = some (s.ownerOf track) := by
  obtain ⟨i, hi, album, halbum, hnumber⟩ :=
    hs.exists_referred .tracks "album_id" .albums (by decide) htrack
  have hsome := hs.byNumber_eq_some_iff.2 ⟨halbum, hnumber⟩
  rw [ownerOf, hi, hsome, Option.getD_some]

theorem ownerOf_mem (hs : s.Sound) {track : Row} (htrack : track ∈ s.rows .tracks) :
    s.ownerOf track ∈ s.rows .albums :=
  List.mem_of_find?_eq_some (hs.byNumber_ownerOf htrack)

theorem value_id_ownerOf (hs : s.Sound) {track : Row} (htrack : track ∈ s.rows .tracks) :
    (s.ownerOf track).value "id" = track.value "album_id" := by
  obtain ⟨i, hi, -⟩ := hs.exists_referred .tracks "album_id" .albums (by decide) htrack
  have hsome := hs.byNumber_ownerOf htrack
  rw [hi] at hsome ⊢
  exact (hs.byNumber_eq_some_iff.1 hsome).2

end Sound

end AudioLibrary.Store
