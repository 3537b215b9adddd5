import AudioLibrary.Proofs.Query.Arrangement

/-!
# Where an item stands

`position` says in which order the items of a result stand, with no statement in sight.  Albums are
ordered by the key of the sort and, where that agrees, the newest first.  Played albums stand before
all others when the last played come first.  Tracks are ordered as their albums are and then by
their files.

It is the order of the statements on the rows of a store, `itemOrder_eq_position`.
-/

namespace AudioLibrary

open AudioLibrary.Relational
open Std

/-! ## Texts letter case aside -/

namespace Text

theorem foldedHead_eq_foldCase {s : List Char} (h : '\x00' ∉ s) : foldedHead s = foldCase s := by
  induction s with
  | nil => rfl
  | cons c s ih =>
      have hc := (List.ne_of_not_mem_cons h).symm
      rw [foldedHead, if_neg hc, ih (List.not_mem_of_not_mem_cons h)]
      rfl

theorem lengthPastNul_eq_zero {s : List Char} (h : '\x00' ∉ s) : lengthPastNul s = 0 := by
  induction s with
  | nil => rfl
  | cons c s ih =>
      have hc := (List.ne_of_not_mem_cons h).symm
      rw [lengthPastNul, if_neg hc, ih (List.not_mem_of_not_mem_cons h)]

/-- Texts without a U+0000 are compared as they are in small letters. -/
theorem compareIgnoringCase_of_nul_not_mem {s t : List Char} (hs : '\x00' ∉ s) (ht : '\x00' ∉ t) :
    compareIgnoringCase s t = compare (foldCase s) (foldCase t) := by
  rw [compareIgnoringCase_eq]
  unfold compareLex compareOn
  rw [foldedHead_eq_foldCase hs, foldedHead_eq_foldCase ht, lengthPastNul_eq_zero hs,
    lengthPastNul_eq_zero ht]
  exact Ordering.then_eq

end Text

theorem Value.keyOrder_text (c : Collation) (s t : String) :
    keyOrder c (.text s) (.text t) = c.compare s t := by
  rw [← compareBy_eq_keyOrder c rfl rfl]
  rfl

/-! ## The order of albums and of tracks -/

/-- The number of a row. -/
def Row.number (row : Row) : Int64 := (row.value "id").integer?.getD 0

/-- When an album was played last; nothing if it never was. -/
def Store.lastPlayed (s : Store) (album : Row) : Value := (s.statsOf album).value "last_played_at"

namespace Shape

/-- By the text of a column, letter case aside. -/
def textOrder (column : String) (a b : Row) : Ordering :=
  Value.keyOrder .noCase (a.value column) (b.value column)

/-- Played albums first, and of these the last played. -/
def playedOrder (s : Store) : Row → Row → Ordering :=
  compareLex (compareOn fun album => (s.lastPlayed album).isNull)
    fun a b => Value.keyOrder .binary (s.lastPlayed b) (s.lastPlayed a)

/-- By the key of a sort. -/
def sortedBy (s : Store) : SortOrder → Row → Row → Ordering
  | .addedDesc => fun _ _ => .eq
  | .titleAsc => textOrder "title"
  | .rjAsc => textOrder "rj_code"
  | .circleAsc => textOrder "circle"
  | .cvAsc => textOrder "cv"
  | .lastPlayedDesc => playedOrder s

/-- By the key of a sort, then the newest first. -/
def albumPosition (s : Store) (sort : SortOrder) : Row → Row → Ordering :=
  compareLex (sortedBy s sort) fun a b => compare b.number a.number

/-- By the album, then by path, then the oldest first. -/
def trackPosition (s : Store) (sort : SortOrder) : Row → Row → Ordering :=
  compareLex (fun a b => albumPosition s sort (s.ownerOf a) (s.ownerOf b))
    (compareLex (textOrder "path") (compareOn Row.number))

/-- Where an item stands to another. -/
def position (shape : Shape) (s : Store) (sort : SortOrder) : Row → Row → Ordering :=
  match shape with
  | albums | headers => albumPosition s sort
  | tracks | albumTracks _ => trackPosition s sort

instance (column : String) : TransCmp (textOrder column) := by
  unfold textOrder
  infer_instance

instance (s : Store) : TransCmp (playedOrder s) := by
  unfold playedOrder
  infer_instance

instance (s : Store) (sort : SortOrder) : TransCmp (sortedBy s sort) := by
  cases sort with
  | addedDesc => exact { eq_swap := rfl, isLE_trans := fun _ _ => rfl }
  | titleAsc => exact inferInstanceAs (TransCmp (textOrder "title"))
  | rjAsc => exact inferInstanceAs (TransCmp (textOrder "rj_code"))
  | circleAsc => exact inferInstanceAs (TransCmp (textOrder "circle"))
  | cvAsc => exact inferInstanceAs (TransCmp (textOrder "cv"))
  | lastPlayedDesc => exact inferInstanceAs (TransCmp (playedOrder s))

instance (s : Store) (sort : SortOrder) : TransCmp (albumPosition s sort) := by
  unfold albumPosition
  infer_instance

instance (s : Store) (sort : SortOrder) : TransCmp (trackPosition s sort) := by
  unfold trackPosition
  infer_instance

instance (shape : Shape) (s : Store) (sort : SortOrder) : TransCmp (shape.position s sort) := by
  cases shape with
  | albums | headers => exact inferInstanceAs (TransCmp (albumPosition s sort))
  | tracks | albumTracks => exact inferInstanceAs (TransCmp (trackPosition s sort))

variable {s : Store}

/-! ## The order of the statements -/

theorem keyOrder_number {a b : Row} {i j : Int64} (ha : a.value "id" = .integer i)
    (hb : b.value "id" = .integer j) :
    Value.keyOrder .binary (a.value "id") (b.value "id") = compare a.number b.number := by
  have hnumber : ∀ {row : Row} {n : Int64}, row.value "id" = .integer n → row.number = n := by
    intro row n h
    rw [Row.number, h]
    rfl
  rw [hnumber ha, hnumber hb, ha, hb, ← Value.compareBy_eq_keyOrder .binary rfl rfl]
  rfl

theorem rowOrder_singleton {α : Type} (value : OrderKey → α → Value) (k : OrderKey) (a b : α) :
    rowOrder value [k] a b = k.keyOrder (value k a) (value k b) :=
  Ordering.then_eq

/-- The keys of a statement put albums that were played last first. -/
theorem rowOrder_lastPlayed (s : Store) (a b : Row) :
    rowOrder (albumValue s)
      [{ term := .choose (.isNull (.col "ps" "last_played_at")) (.number 1) (.number 0)
         direction := some .ascending },
        descending "ps" "last_played_at"] a b = playedOrder s a b := by
  have hplayed : ∀ album, (Expr.col "ps" "last_played_at").eval (albumScope s album) =
      s.lastPlayed album := by
    intro album
    rw [eval_col]
    rfl
  have hmark : ∀ album, albumValue s
      { term := .choose (.isNull (.col "ps" "last_played_at")) (.number 1) (.number 0)
        direction := some .ascending } album =
        if (s.lastPlayed album).isNull then .integer 1 else .integer 0 := by
    intro album
    show (if Truth.holds (some ((Expr.col "ps" "last_played_at").eval (albumScope s album)).isNull)
      then Value.integer 1 else Value.integer 0) = _
    rw [hplayed, Truth.holds_some]
  have hmarks : ∀ p q : Bool, Value.keyOrder .binary (if p then .integer 1 else .integer 0)
      (if q then .integer 1 else .integer 0) = compare p q := by
    intro p q
    rw [← Value.compareBy_eq_keyOrder .binary (by split <;> rfl) (by split <;> rfl)]
    cases p <;> cases q <;> rfl
  have hlast : ∀ album, albumValue s (descending "ps" "last_played_at") album =
      s.lastPlayed album := hplayed
  rw [← List.singleton_append, rowOrder_append, rowOrder_singleton, rowOrder_singleton, hmark,
    hmark, hlast, hlast]
  exact congrArg (Ordering.then · _) (hmarks _ _)

/-- The order of albums by the keys of a statement. -/
theorem albumsOrder_eq_albumPosition (hs : s.Sound) (sort : SortOrder) {a b : Row}
    (ha : a ∈ s.rows .albums) (hb : b ∈ s.rows .albums) :
    albumsOrder s sort a b = albumPosition s sort a b := by
  obtain ⟨i, hi⟩ := hs.numbered .albums a ha
  obtain ⟨j, hj⟩ := hs.numbered .albums b hb
  have hcolumn : ∀ k : OrderKey, ∀ column, k.term = .expr (.col "a" column) →
      ∀ album, albumValue s k album = album.value column := by
    intro k column hk album
    rw [albumValue, hk, Term.eval, eval_col]
    rfl
  have hnumber : rowOrder (albumValue s) [descending "a" "id"] a b =
      compare b.number a.number := by
    rw [rowOrder_singleton, hcolumn _ "id" rfl, hcolumn _ "id" rfl]
    exact keyOrder_number hj hi
  have htext : ∀ column, rowOrder (albumValue s) [byText "a" column] a b =
      textOrder column a b := by
    intro column
    rw [rowOrder_singleton, hcolumn _ column rfl, hcolumn _ column rfl]
    rfl
  unfold albumsOrder albumOrder
  rw [rowOrder_append, hnumber]
  refine congrArg (Ordering.then · (compare b.number a.number)) ?_
  cases sort with
  | addedDesc => rfl
  | titleAsc => exact htext "title"
  | rjAsc => exact htext "rj_code"
  | circleAsc => exact htext "circle"
  | cvAsc => exact htext "cv"
  | lastPlayedDesc => exact rowOrder_lastPlayed s a b

/-- The order of tracks by the keys of a statement. -/
theorem tracksOrder_eq_trackPosition (hs : s.Sound) (sort : SortOrder) {a b : Row}
    (ha : a ∈ s.rows .tracks) (hb : b ∈ s.rows .tracks) :
    tracksOrder s sort a b = trackPosition s sort a b := by
  obtain ⟨i, hi⟩ := hs.numbered .tracks a ha
  obtain ⟨j, hj⟩ := hs.numbered .tracks b hb
  have hcolumn : ∀ k : OrderKey, ∀ column, k.term = .expr (.col "t" column) →
      ∀ track, fileValue s k track = track.value column := by
    intro k column hk track
    rw [fileValue, hk, Term.eval, eval_col]
    rfl
  have hfiles : rowOrder (fileValue s) fileOrder a b =
      (textOrder "path" a b).then (compare a.number b.number) := by
    unfold fileOrder
    rw [← List.singleton_append, rowOrder_append, rowOrder_singleton, rowOrder_singleton,
      hcolumn _ "path" rfl, hcolumn _ "path" rfl, hcolumn _ "id" rfl, hcolumn _ "id" rfl]
    exact congrArg (Ordering.then (textOrder "path" a b)) (keyOrder_number hi hj)
  unfold tracksOrder trackPosition compareLex
  dsimp only
  rw [albumsOrder_eq_albumPosition hs sort (hs.ownerOf_mem ha) (hs.ownerOf_mem hb), hfiles]
  rfl

/-- **The statements put items where they stand.** -/
theorem itemOrder_eq_position (hs : s.Sound) (shape : Shape) (sort : SortOrder) {a b : Row}
    (ha : a ∈ s.rows shape.itemTable) (hb : b ∈ s.rows shape.itemTable) :
    shape.itemOrder s sort a b = shape.position s sort a b := by
  cases shape with
  | albums | headers => exact albumsOrder_eq_albumPosition hs sort ha hb
  | tracks | albumTracks => exact tracksOrder_eq_trackPosition hs sort ha hb

end Shape

end AudioLibrary
