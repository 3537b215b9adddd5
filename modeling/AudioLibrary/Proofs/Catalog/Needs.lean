import AudioLibrary.Catalog.Album
import AudioLibrary.Catalog.Track
import Mathlib.Tactic.SplitIfs

/-!
# What records need of rows

A record that is read from a row needs some columns to hold values of certain kinds and takes the
others as they are, with a default for what is missing or of another kind.  `Row.ReadsBy` separates
the two: what is needed decides whether the row can be read, `Row.lacking?` names the first column
of which the row lacks what is needed, and the values of the record are then a total function of the
row.

Albums, tracks in lists and headers are read so, and so is a list of rows: the first row that lacks
something decides, `Row.ReadsBy.mapM_eq`.
-/

namespace AudioLibrary

namespace Row

/-- What a record may need to stand in a column. -/
inductive Need where
  | integer
  | text
  /-- A text or nothing; the column may also be missing. -/
  | optionalText
deriving DecidableEq, Repr

/-- Whether what stands in a column, if the row has it, is what is needed. -/
def Need.isMet : Need → Option Value → Bool
  | integer, some (.integer _) => true
  | text, some (.text _) => true
  | optionalText, none | optionalText, some .null | optionalText, some (.text _) => true
  | _, _ => false

/-- The first column of which the row lacks what is needed. -/
def lacking? (needs : List (String × Need)) (row : Row) : Option String :=
  (needs.find? fun need => !need.2.isMet (row.get? need.1)).map Prod.fst

/-- A row is read if it lacks nothing that is needed; else the first column it lacks is missing. -/
def ReadsBy {α : Type} (read : Row → Except LibraryError α) (needs : List (String × Need))
    (reading : Row → α) : Prop :=
  ∀ row : Row, read row =
    match row.lacking? needs with
    | some column => .error (missingColumn column)
    | none => .ok (reading row)

variable {row : Row} {column : String} {need : Need} {needs : List (String × Need)}

/-! ## Columns -/

theorem lacking?_nil (row : Row) : row.lacking? [] = none := rfl

theorem lacking?_cons :
    row.lacking? ((column, need) :: needs) =
      if need.isMet (row.get? column) then row.lacking? needs else some column := by
  unfold lacking?
  rw [List.find?_cons]
  cases need.isMet (row.get? column) <;> rfl

theorem lacking?_eq_none_iff :
    row.lacking? needs = none ↔ ∀ need ∈ needs, need.2.isMet (row.get? need.1) = true := by
  simp [lacking?]

/-- What is not there counts as nothing. -/
theorem Need.isMet_get? (need : Need) (row : Row) (column : String) :
    need.isMet (row.get? column) = need.isMet (some (row.value column)) := by
  unfold value
  rcases row.get? column with _ | v
  · cases need <;> rfl
  · rfl

theorem requireInteger_eq (row : Row) (column : String) :
    row.requireInteger column =
      if Need.integer.isMet (row.get? column) then .ok (row.integerOrZero column)
      else .error (missingColumn column) := by
  unfold requireInteger require integerOrZero value
  rcases row.get? column with _ | v
  · rfl
  · cases v <;> rfl

theorem requireText_eq (row : Row) (column : String) :
    row.requireText column =
      if Need.text.isMet (row.get? column) then .ok (row.textOrEmpty column)
      else .error (missingColumn column) := by
  unfold requireText require textOrEmpty value
  rcases row.get? column with _ | v
  · rfl
  · cases v <;> rfl

theorem optionalText_eq (row : Row) (column : String) :
    row.optionalText column =
      if Need.optionalText.isMet (row.get? column) then .ok (row.value column).text?
      else .error (missingColumn column) := by
  unfold optionalText requireText require value
  rcases row.get? column with _ | v
  · rfl
  · cases v <;> rfl

/-- What is needed comes before the rest. -/
theorem ite_ok_bind {α β ε : Type} (p : Prop) [Decidable p] (a : α) (e : ε)
    (f : α → Except ε β) :
    ((if p then .ok a else .error e : Except ε α) >>= f) = if p then f a else .error e := by
  split <;> rfl

theorem ReadsBy.eq_ok_iff {α : Type} {read : Row → Except LibraryError α} {reading : Row → α}
    (h : ReadsBy read needs reading) {a : α} :
    read row = .ok a ↔ row.lacking? needs = none ∧ reading row = a := by
  rw [h row]
  rcases row.lacking? needs with _ | column <;> simp

/-! ## Lists of rows -/

/-- A list of rows is read if no row lacks anything; else the first that does decides. -/
theorem ReadsBy.mapM_eq {α : Type} {read : Row → Except LibraryError α} {reading : Row → α}
    (h : ReadsBy read needs reading) (rows : List Row) :
    rows.mapM read =
      match rows.findSome? (lacking? needs) with
      | some column => .error (missingColumn column)
      | none => .ok (rows.map reading) := by
  induction rows with
  | nil => rfl
  | cons row rows ih =>
      rw [List.mapM_cons, h row, ih, List.findSome?_cons]
      rcases row.lacking? needs with _ | column
      · rcases rows.findSome? (lacking? needs) with _ | column <;> rfl
      · rfl

theorem ReadsBy.mapM_eq_ok_iff {α : Type} {read : Row → Except LibraryError α} {reading : Row → α}
    (h : ReadsBy read needs reading) {rows : List Row} {as : List α} :
    rows.mapM read = .ok as ↔
      (∀ row ∈ rows, row.lacking? needs = none) ∧ rows.map reading = as := by
  rw [h.mapM_eq, ← List.findSome?_eq_none_iff]
  rcases rows.findSome? (lacking? needs) with _ | column <;> simp

end Row

/-! ## Albums, tracks and headers -/

namespace Album

/-- What an album needs of a row, in the order in which it is looked for. -/
def needs : List (String × Row.Need) :=
  [("id", .integer), ("title", .text), ("path", .text), ("local_path", .optionalText),
    ("download_path", .optionalText)]

/-- The album in a row that lacks nothing. -/
def reading (row : Row) : Album where
  id := ⟨row.integerOrZero "id"⟩
  title := row.textOrEmpty "title"
  path := row.textOrEmpty "path"
  localPath := (row.value "local_path").text?
  downloadPath := (row.value "download_path").text?
  circle := row.textOrEmpty "circle"
  cv := row.textOrEmpty "cv"
  tags := row.textOrEmpty "tags"
  coverUrl := row.textOrEmpty "cover_url"
  coverPath := row.textOrEmpty "cover_path"
  coverThumbPath := row.textOrEmpty "cover_thumb_path"
  workId := row.textOrEmpty "work_id"
  rjCode := row.textOrEmpty "rj_code"
  ratingValue := (row.value "rating_value").real?
  ratingCount := row.integerOrZero "rating_count"
  releaseDate := row.textOrEmpty "release_date"
  dlCount := row.integerOrZero "dl_count"
  priceJpy := row.integerOrZero "price_jpy"
  hasAsmrOne := row.integerOrZero "has_asmr_one" != 0
  description := row.textOrEmpty "description"

theorem readsBy : Row.ReadsBy ofRow needs reading := by
  intro row
  unfold ofRow needs
  simp only [Row.requireInteger_eq, Row.requireText_eq, Row.optionalText_eq, Row.lacking?_cons,
    Row.lacking?_nil, Row.ite_ok_bind]
  split_ifs <;> rfl

end Album

namespace AlbumHeader

/-- What a header needs of a row, in the order in which it is looked for. -/
def needs : List (String × Row.Need) := [("album_id", .integer), ("album_title", .text)]

/-- The header in a row that lacks nothing. -/
def reading (row : Row) : AlbumHeader where
  albumId := ⟨row.integerOrZero "album_id"⟩
  albumTitle := row.textOrEmpty "album_title"
  circle := row.textOrEmpty "circle"
  cv := row.textOrEmpty "cv"
  coverUrl := row.textOrEmpty "cover_url"
  coverPath := row.textOrEmpty "cover_path"
  workId := row.textOrEmpty "work_id"
  rjCode := row.textOrEmpty "rj_code"

theorem readsBy : Row.ReadsBy ofRow needs reading := by
  intro row
  unfold ofRow needs
  simp only [Row.requireInteger_eq, Row.requireText_eq, Row.lacking?_cons, Row.lacking?_nil,
    Row.ite_ok_bind]
  split_ifs <;> rfl

end AlbumHeader

namespace TrackRow

/-- What a track in a list needs of a row, in the order in which it is looked for. -/
def needs : List (String × Row.Need) :=
  [("track_id", .integer), ("album_id", .integer), ("track_title", .text), ("track_path", .text),
    ("album_title", .text)]

/-- The track in a row that lacks nothing. -/
def reading (row : Row) : TrackRow where
  trackId := ⟨row.integerOrZero "track_id"⟩
  albumId := ⟨row.integerOrZero "album_id"⟩
  trackTitle := row.textOrEmpty "track_title"
  trackPath := row.textOrEmpty "track_path"
  duration := (row.value "duration").real?.getD .zero
  hasSubtitles := row.integerOrZero "has_subtitles" != 0
  trackGroup := row.textOrEmpty "track_group"
  albumTitle := row.textOrEmpty "album_title"
  circle := row.textOrEmpty "circle"
  cv := row.textOrEmpty "cv"
  coverUrl := row.textOrEmpty "cover_url"
  coverPath := row.textOrEmpty "cover_path"
  workId := row.textOrEmpty "work_id"
  rjCode := row.textOrEmpty "rj_code"

theorem readsBy : Row.ReadsBy ofRow needs reading := by
  intro row
  unfold ofRow needs
  simp only [Row.requireInteger_eq, Row.requireText_eq, Row.lacking?_cons, Row.lacking?_nil,
    Row.ite_ok_bind]
  split_ifs <;> rfl

end TrackRow

end AudioLibrary
