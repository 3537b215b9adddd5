import AudioLibrary.Proofs.Store.Sound
import AudioLibrary.Query.Compile

/-!
# What a query reads

A query reads the rows of one table, and joins bring to each of them one album and, where the order
needs them, the play statistics of that album.  In a sound store all these joins are by number and
leave the rows as many as they are: `scopes_source` gives the scopes of a query as a map over the
rows of its table.

The statistics stand in front of the rest and no condition looks at them, so that conditions see
the same in every order, `value_scope`.
-/

namespace AudioLibrary

open AudioLibrary.Relational

/-! ## Values in scope -/

namespace Relational

theorem Scope.value_some (scope : Scope) (source column : String) :
    scope.value (some source) column = ((scope.lookup source).getD []).value column := by
  unfold Scope.value
  cases h : scope.lookup source with
  | none => simp [h, Row.value, Row.get?]
  | some row => simp [h]

/-- A column without a source is one of the only row in scope. -/
theorem Scope.value_none (source : String) (row : Row) (column : String) :
    Scope.value [(source, row)] none column = row.value column := by
  show ((List.findSome? (fun entry => entry.2.get? column) [(source, row)]).getD .null) = _
  rw [List.findSome?_cons, List.findSome?_nil]
  unfold Row.value
  cases row.get? column <;> rfl

@[simp] theorem eval_col (scope : Scope) (source column : String) :
    (Expr.col source column).eval scope = ((scope.lookup source).getD []).value column :=
  Scope.value_some scope source column

theorem Source.scopes_append_joins {δ : Type} (tables : Tables) (derived : δ → List Row)
    (outer : Scope) (relation : Relation δ) (joins : List Join) (j : Join) :
    Source.scopes tables derived outer ⟨relation, joins ++ [j]⟩ =
      (Source.scopes tables derived outer ⟨relation, joins⟩).flatMap (j.extend tables) := by
  simp only [Source.scopes, Source.firstRows, List.foldl_append, List.foldl_cons, List.foldl_nil]

end Relational

/-! ## Joins by number -/

namespace Store

/-- What comes of joining the row with a number. -/
theorem Sound.extend_number {s : Store} (hs : s.Sound) (t : Table) (outer : Bool)
    (as source column : String) (hne : source ≠ as) {scope : Scope} {i : Int64}
    (hvalue : ((scope.lookup source).getD []).value column = .integer i) :
    Join.extend s.tables
        ⟨outer, ⟨t.name, some as⟩, .equals (.col as t.numberColumn) (.col source column)⟩ scope =
      if outer then [(as, (s.byNumber t (.integer i)).getD []) :: scope]
      else (s.byNumber t (.integer i)).toList.map fun row => (as, row) :: scope := by
  -- the new row stands in front and hides no other source
  have htest : ∀ row, Plain.holds ((as, row) :: scope)
      (.equals (.col as t.numberColumn) (.col source column)) =
        (equal (row.value t.numberColumn) (.integer i)).holds := by
    intro row
    have hother : (((as, row) :: scope).lookup source).getD [] =
        (scope.lookup source).getD [] := by
      rw [List.lookup_cons, beq_false_of_ne hne]
    have hself : (((as, row) :: scope).lookup as).getD [] = row := by
      rw [List.lookup_cons_self, Option.getD_some]
    unfold Plain.holds Plain.eval Condition.eval
    rw [eval_col, eval_col, hself, hother, hvalue]
  have hfound : ((s.tables t.name).map fun row => (as, row) :: scope).filter
      (fun scope => Plain.holds scope
        (.equals (.col as t.numberColumn) (.col source column))) =
      (s.byNumber t (.integer i)).toList.map fun row => (as, row) :: scope := by
    rw [List.filter_map, tables_name, ← hs.filter_number t i]
    congr 1
    exact List.filter_congr fun row _ => htest row
  have hname : TableRef.scopeName ⟨t.name, some as⟩ = as := rfl
  unfold Join.extend
  simp only [hname, hfound]
  cases s.byNumber t (.integer i) <;> cases outer <;> rfl

end Store

/-! ## Scopes of queries -/

namespace Shape

/-- The table whose rows a query reads. -/
def table : Shape → Table
  | albums => .albums
  | _ => .tracks

/-- The album of a row that a query reads. -/
def albumOf (shape : Shape) (s : Store) (row : Row) : Row :=
  match shape with
  | albums => row
  | _ => s.ownerOf row

/-- A row with its album, under the names that conditions use. -/
def baseScope (shape : Shape) (s : Store) (row : Row) : Scope :=
  match shape with
  | albums => [("a", row)]
  | _ => [("a", s.ownerOf row), ("t", row)]

/-- All that is in scope of a row. -/
def scope (shape : Shape) (s : Store) (sort : SortOrder) (row : Row) : Scope :=
  if sort = .lastPlayedDesc then
    ("ps", s.statsOf (shape.albumOf s row)) :: shape.baseScope s row
  else shape.baseScope s row

variable {s : Store}

theorem albumOf_mem (hs : s.Sound) (shape : Shape) {row : Row} (hrow : row ∈ s.rows shape.table) :
    shape.albumOf s row ∈ s.rows .albums := by
  cases shape with
  | albums => exact hrow
  | tracks | headers | albumTracks => exact hs.ownerOf_mem hrow

theorem lookup_baseScope (shape : Shape) (s : Store) (row : Row) :
    (shape.baseScope s row).lookup "a" = some (shape.albumOf s row) := by
  cases shape <;> rfl

/-- Statistics change nothing for conditions. -/
theorem lookup_scope (shape : Shape) (s : Store) (sort : SortOrder) (row : Row) {source : String}
    (hsource : source ≠ "ps") :
    (shape.scope s sort row).lookup source = (shape.baseScope s row).lookup source := by
  unfold scope
  split
  · rw [List.lookup_cons, beq_false_of_ne hsource]
  · rfl

/-- The scopes without statistics. -/
theorem scopes_baseSource (hs : s.Sound) (shape : Shape) :
    shape.baseSource.scopes s.tables (Union.rows s.tables) [] =
      (s.rows shape.table).map (shape.baseScope s) := by
  have htracks : trackSource.scopes s.tables (Union.rows s.tables) [] =
      (s.rows .tracks).map fun row => [("a", s.ownerOf row), ("t", row)] := by
    have hjoin : ∀ row ∈ s.rows .tracks, Join.extend s.tables
        ⟨false, ⟨"albums", some "a"⟩, .equals (.col "a" "id") (.col "t" "album_id")⟩ [("t", row)] =
          [[("a", s.ownerOf row), ("t", row)]] := by
      intro row hrow
      obtain ⟨i, hi, -⟩ := hs.exists_referred .tracks "album_id" .albums (by decide) hrow
      have howner := hs.byNumber_ownerOf hrow
      rw [hi] at howner
      have hvalue : (([("t", row)].lookup "t").getD []).value "album_id" = .integer i := hi
      have hextend := hs.extend_number .albums false "a" "t" "album_id" (by decide) hvalue
      rw [howner] at hextend
      exact hextend
    have hfirst : trackSource.scopes s.tables (Union.rows s.tables) [] =
        ((s.tables "tracks").map fun row => [("t", row)]).flatMap (Join.extend s.tables
          ⟨false, ⟨"albums", some "a"⟩, .equals (.col "a" "id") (.col "t" "album_id")⟩) := rfl
    rw [hfirst, show s.tables "tracks" = s.rows .tracks from Store.tables_name s .tracks,
      List.flatMap_map, ← List.flatMap_singleton' (List.map _ _), List.flatMap_map]
    exact List.flatMap_congr hjoin
  cases shape with
  | albums =>
      have hfirst : Source.scopes s.tables (Union.rows s.tables) [] (baseSource .albums) =
          (s.tables "albums").map fun row => [("a", row)] := rfl
      rw [hfirst, show s.tables "albums" = s.rows .albums from Store.tables_name s .albums]
      rfl
  | tracks | headers | albumTracks => exact htracks

/-- **The scopes of a query are a map over the rows of one table.** -/
theorem scopes_source (hs : s.Sound) (shape : Shape) (sort : SortOrder) :
    (shape.source sort).scopes s.tables (Union.rows s.tables) [] =
      (s.rows shape.table).map (shape.scope s sort) := by
  unfold source scope
  by_cases hsort : sort = .lastPlayedDesc
  · have hjoin : ∀ row ∈ s.rows shape.table, playStats.extend s.tables (shape.baseScope s row) =
        [("ps", s.statsOf (shape.albumOf s row)) :: shape.baseScope s row] := by
      intro row hrow
      obtain ⟨i, hi⟩ := hs.numbered .albums _ (shape.albumOf_mem hs hrow)
      have hid : (((shape.baseScope s row).lookup "a").getD []).value "id" = .integer i := by
        rw [lookup_baseScope, Option.getD_some]
        exact hi
      have hextend := hs.extend_number .playStats true "ps" "a" "id" (by decide) hid
      rw [if_pos rfl] at hextend
      rw [Store.statsOf, show (shape.albumOf s row).value "id" = .integer i from hi]
      exact hextend
    simp only [if_pos hsort]
    rw [Source.scopes_append_joins, scopes_baseSource hs, List.flatMap_map,
      ← List.flatMap_singleton' (List.map _ _), List.flatMap_map]
    exact List.flatMap_congr hjoin
  · simp only [if_neg hsort]
    exact scopes_baseSource hs shape

end Shape

end AudioLibrary
