import AudioLibrary.Proofs.Catalog.Needs
import AudioLibrary.Proofs.Query.Shown
import Mathlib.Data.List.Forall2

/-!
# Reading the rows of a query

A record is read from a row if the columns that it needs hold values of their kinds.  In a library
whose text columns hold texts, `Store.Textual`, every row of a query can be read.
-/

namespace AudioLibrary

open AudioLibrary.Relational

/-! ## Lists that can be read -/

section

variable {α β γ ε : Type} {read : α → Except ε β} {as : List α}

/-- A list is read member by member. -/
theorem mapM_eq_ok_iff {bs : List β} : as.mapM read = .ok bs ↔ as.map read = bs.map .ok := by
  induction as generalizing bs with
  | nil =>
      rw [List.mapM_nil, List.map_nil, eq_comm (b := bs.map _), List.map_eq_nil_iff]
      exact ⟨fun h => (Except.ok.inj h).symm, fun h => h ▸ rfl⟩
  | cons a as ih =>
      rw [List.mapM_cons]
      constructor
      · intro h
        rcases ha : read a with e | b
        · rw [ha] at h
          cases h
        · rcases has : as.mapM read with e | tail
          · rw [ha, has] at h
            cases h
          · rw [ha, has] at h
            cases h
            rw [List.map_cons, List.map_cons, ha, ih.1 has]
      · intro h
        cases bs with
        | nil => cases h
        | cons b bs =>
            obtain ⟨ha, has⟩ := List.cons.inj h
            rw [ha, ih.2 has]
            rfl

theorem length_of_mapM_eq_ok {bs : List β} (h : as.mapM read = .ok bs) :
    as.length = bs.length := by
  have hlength := congrArg List.length (mapM_eq_ok_iff.1 h)
  rwa [List.length_map, List.length_map] at hlength

/-- What is read tells of what it is read from. -/
theorem map_eq_map_of_mapM_eq_ok {bs : List β} (h : as.mapM read = .ok bs) {f : α → γ} {g : β → γ}
    (hfg : ∀ a b, read a = .ok b → f a = g b) : as.map f = bs.map g := by
  rw [mapM_eq_ok_iff, ← List.forall₂_eq_eq_eq, List.forall₂_map_left_iff,
    List.forall₂_map_right_iff] at h
  rw [← List.forall₂_eq_eq_eq, List.forall₂_map_left_iff, List.forall₂_map_right_iff]
  exact h.imp hfg

theorem exists_mapM_eq_ok (h : ∀ a ∈ as, ∃ b, read a = .ok b) : ∃ bs, as.mapM read = .ok bs := by
  induction as with
  | nil => exact ⟨[], rfl⟩
  | cons a as ih =>
      obtain ⟨b, hb⟩ := h a List.mem_cons_self
      obtain ⟨bs, hbs⟩ := ih fun a ha => h a (List.mem_cons_of_mem _ ha)
      refine ⟨b :: bs, ?_⟩
      rw [List.mapM_cons, hb, hbs]
      rfl

/-- Where members fail in one way only, so does the list. -/
theorem mapM_eq_error {e : ε} (h : ∀ a ∈ as, (∃ b, read a = .ok b) ∨ read a = .error e)
    (hfails : ∃ a ∈ as, read a = .error e) : as.mapM read = .error e := by
  induction as with
  | nil =>
      obtain ⟨a, ha, -⟩ := hfails
      exact absurd ha List.not_mem_nil
  | cons a as ih =>
      rw [List.mapM_cons]
      rcases h a List.mem_cons_self with ⟨b, hb⟩ | ha
      · have htail : as.mapM read = .error e := by
          refine ih (fun a ha => h a (List.mem_cons_of_mem _ ha)) ?_
          obtain ⟨c, hc, hfails⟩ := hfails
          rcases List.mem_cons.1 hc with rfl | hc
          · rw [hb] at hfails
            cases hfails
          · exact ⟨c, hc, hfails⟩
        rw [hb, htail]
        rfl
      · rw [ha]
        rfl

end

/-! ## Columns that can be read -/

namespace Row

variable {row : Row} {column : String}

theorem require_eq_ok_iff {α : Type} {read : Value → Option α} {a : α}
    (hnull : read .null = none) :
    row.require read column = .ok a ↔ read (row.value column) = some a := by
  unfold require value
  rcases row.get? column with _ | v
  · rw [Option.bind_none, Option.getD_none, hnull]
    simp
  · rw [Option.bind_some, Option.getD_some]
    cases read v <;> simp

/-- Nothing but an integer is read as one. -/
theorem requireInteger_eq_ok_iff {n : Int64} :
    row.requireInteger column = .ok n ↔ row.value column = .integer n := by
  rw [requireInteger, require_eq_ok_iff rfl]
  cases row.value column <;> simp [Value.integer?]

/-- Nothing but a text is read as one. -/
theorem requireText_eq_ok_iff {text : String} :
    row.requireText column = .ok text ↔ row.value column = .text text := by
  rw [requireText, require_eq_ok_iff rfl]
  cases row.value column <;> simp [Value.text?]

/-- There is one way in which what is read fails. -/
theorem require_eq_error {α : Type} {read : Value → Option α}
    (h : ∀ a, row.require read column ≠ .ok a) :
    row.require read column = .error (missingColumn column) := by
  unfold require at h ⊢
  rcases hread : (row.get? column).bind read with _ | a
  · rfl
  · rw [hread] at h
    exact absurd rfl (h a)

/-- A column of rows can be read if all its values are texts, and fails in one way if not. -/
theorem mapM_requireText (rows : List Row) (column : String) :
    (∃ texts, rows.mapM (fun row => row.requireText column) = .ok texts ∧
      rows.map (fun row => row.value column) = texts.map .text) ∨
    (rows.mapM (fun row => row.requireText column) = .error (missingColumn column) ∧
      ∃ row ∈ rows, ∀ text, row.value column ≠ .text text) := by
  by_cases htexts : ∀ row ∈ rows, ∃ text, row.value column = .text text
  · have hreads : ∀ row ∈ rows, ∃ text, row.requireText column = .ok text := fun row hrow =>
      (htexts row hrow).imp fun text => requireText_eq_ok_iff.2
    obtain ⟨texts, hread⟩ := exists_mapM_eq_ok hreads
    exact .inl ⟨texts, hread,
      map_eq_map_of_mapM_eq_ok hread fun row text => requireText_eq_ok_iff.1⟩
  · push Not at htexts
    obtain ⟨row, hrow, hvalue⟩ := htexts
    refine .inr ⟨mapM_eq_error (fun other _ => ?_) ⟨row, hrow, ?_⟩, row, hrow, hvalue⟩
    · rcases Classical.em (∃ text, other.requireText column = .ok text) with h | h
      · exact .inl h
      · exact .inr (require_eq_error (not_exists.1 h))
    · exact require_eq_error fun text h => hvalue text (requireText_eq_ok_iff.1 h)

theorem requireInteger_eq_ok {n : Int64} (h : row.value column = .integer n) :
    row.requireInteger column = .ok n :=
  requireInteger_eq_ok_iff.2 h

theorem requireText_eq_ok {text : String} (h : row.value column = .text text) :
    row.requireText column = .ok text :=
  requireText_eq_ok_iff.2 h

end Row

/-! ## Libraries that can be read -/

namespace Store

/-- Text columns hold texts. -/
def Textual (s : Store) : Prop :=
  ∀ t, ∀ row ∈ s.rows t, ∀ c ∈ t.columns, c.affinity = .text →
    (∃ text, row.value c.name = .text text) ∨ (c.required = false ∧ row.value c.name = .null)

variable {s : Store}

theorem Legible.textual (hl : s.Legible) : s.Textual := by
  intro t row hrow c hc haffinity
  rcases hl t row hrow c hc haffinity with ⟨text, htext, -⟩ | hnull
  · exact .inl ⟨text, htext⟩
  · exact .inr hnull

theorem Textual.text (h : s.Textual) (t : Table) (column : String)
    (hcolumn : ∃ c ∈ t.columns, c.name = column ∧ c.affinity = .text ∧ c.required = true)
    {row : Row} (hrow : row ∈ s.rows t) : ∃ text, row.value column = .text text := by
  obtain ⟨c, hc, rfl, haffinity, hrequired⟩ := hcolumn
  rcases h t row hrow c hc haffinity with htext | ⟨hoptional, -⟩
  · exact htext
  · rw [hrequired] at hoptional
    exact absurd hoptional Bool.noConfusion

/-- What must be a text is one. -/
theorem Textual.isMet_text (h : s.Textual) (t : Table) (column : String)
    (hcolumn : ∃ c ∈ t.columns, c.name = column ∧ c.affinity = .text ∧ c.required = true)
    {row : Row} (hrow : row ∈ s.rows t) :
    Row.Need.text.isMet (some (row.value column)) = true := by
  obtain ⟨text, htext⟩ := h.text t column hcolumn hrow
  rw [htext]
  rfl

theorem Textual.isMet_optionalText (h : s.Textual) (t : Table) (column : String)
    (hcolumn : ∃ c ∈ t.columns, c.name = column ∧ c.affinity = .text) {row : Row}
    (hrow : row ∈ s.rows t) :
    Row.Need.optionalText.isMet (some (row.value column)) = true := by
  obtain ⟨c, hc, rfl, haffinity⟩ := hcolumn
  rcases h t row hrow c hc haffinity with ⟨text, hvalue⟩ | ⟨-, hvalue⟩ <;> rw [hvalue] <;> rfl

/-- Rows have numbers. -/
theorem Sound.isMet_number (hs : s.Sound) (t : Table) {row : Row} (hrow : row ∈ s.rows t) :
    Row.Need.integer.isMet (some (row.value t.numberColumn)) = true := by
  obtain ⟨n, hnumber⟩ := hs.numbered t row hrow
  rw [hnumber]
  rfl

end Store

namespace Shape

variable {s : Store}

/-- The row that a row of a query shows. -/
theorem exists_present_of_mem_rows (hs : s.Sound) {shape : Shape} {spec : FilterSpec} {row : Row}
    (h : row ∈ (LibraryQuery.compile shape spec).statement.rows s.tables) :
    ∃ shown ∈ s.rows shape.table, shape.present s spec shown = row := by
  obtain ⟨shown, hkept, hpresent⟩ :=
    List.mem_map.1 ((shape.rows_compile_perm hs spec).mem_iff.1 h)
  have hmatching := shape.kept_subset_matching s spec hkept
  exact ⟨shown, (List.mem_filter.1 hmatching).1, hpresent⟩

end Shape

section

variable {s : Store} {row : Row}

/-- A stored album lacks nothing. -/
theorem Album.lacking?_eq_none (hs : s.Sound) (ht : s.Textual) (hrow : row ∈ s.rows .albums) :
    row.lacking? Album.needs = none := by
  rw [Row.lacking?_eq_none_iff]
  simp only [Album.needs, List.forall_mem_cons, Row.Need.isMet_get?]
  exact ⟨hs.isMet_number .albums hrow, ht.isMet_text .albums "title" (by decide) hrow,
    ht.isMet_text .albums "path" (by decide) hrow,
    ht.isMet_optionalText .albums "local_path" (by decide) hrow,
    ht.isMet_optionalText .albums "download_path" (by decide) hrow, List.forall_mem_nil _⟩

/-- What is shown of a stored album lacks nothing. -/
theorem AlbumHeader.lacking?_eq_none (hs : s.Sound) (ht : s.Textual) (hrow : row ∈ s.rows .albums) :
    (headerCells row).lacking? AlbumHeader.needs = none := by
  rw [Row.lacking?_eq_none_iff]
  simp only [AlbumHeader.needs, List.forall_mem_cons]
  exact ⟨hs.isMet_number .albums hrow, ht.isMet_text .albums "title" (by decide) hrow,
    List.forall_mem_nil _⟩

/-- What is shown of a stored track and its album lacks nothing. -/
theorem TrackRow.lacking?_eq_none (hs : s.Sound) (ht : s.Textual) (hrow : row ∈ s.rows .tracks) :
    (trackCells s row).lacking? TrackRow.needs = none := by
  have halbum : Row.Need.integer.isMet (some (row.value "album_id")) = true := by
    rw [← hs.value_id_ownerOf hrow]
    exact hs.isMet_number .albums (hs.ownerOf_mem hrow)
  rw [Row.lacking?_eq_none_iff]
  simp only [TrackRow.needs, List.forall_mem_cons]
  exact ⟨hs.isMet_number .tracks hrow, halbum, ht.isMet_text .tracks "title" (by decide) hrow,
    ht.isMet_text .tracks "path" (by decide) hrow,
    ht.isMet_text .albums "title" (by decide) (hs.ownerOf_mem hrow), List.forall_mem_nil _⟩

end

namespace Shape

variable {s : Store}

theorem exists_albums (hs : s.Sound) (ht : s.Textual) (spec : FilterSpec) :
    ∃ albums, ((LibraryQuery.compile .albums spec).statement.rows s.tables).mapM Album.ofRow =
      .ok albums := by
  refine ⟨_, Album.readsBy.mapM_eq_ok_iff.2 ⟨fun row hrow => ?_, rfl⟩⟩
  obtain ⟨album, halbum, rfl⟩ := exists_present_of_mem_rows hs hrow
  rw [present_albums]
  exact Album.lacking?_eq_none hs ht halbum

theorem exists_tracks (hs : s.Sound) (ht : s.Textual) (spec : FilterSpec) :
    ∃ tracks, ((LibraryQuery.compile .tracks spec).statement.rows s.tables).mapM TrackRow.ofRow =
      .ok tracks := by
  refine ⟨_, TrackRow.readsBy.mapM_eq_ok_iff.2 ⟨fun row hrow => ?_, rfl⟩⟩
  obtain ⟨track, htrack, rfl⟩ := exists_present_of_mem_rows hs hrow
  rw [present_tracks]
  exact TrackRow.lacking?_eq_none hs ht htrack

theorem exists_headers (hs : s.Sound) (ht : s.Textual) (spec : FilterSpec) :
    ∃ headers, ((LibraryQuery.compile .headers spec).statement.rows s.tables).mapM
      AlbumHeader.ofRow = .ok headers := by
  refine ⟨_, AlbumHeader.readsBy.mapM_eq_ok_iff.2 ⟨fun row hrow => ?_, rfl⟩⟩
  obtain ⟨track, htrack, rfl⟩ := exists_present_of_mem_rows hs hrow
  rw [present_headers]
  exact AlbumHeader.lacking?_eq_none hs ht (hs.ownerOf_mem htrack)

end Shape

end AudioLibrary
