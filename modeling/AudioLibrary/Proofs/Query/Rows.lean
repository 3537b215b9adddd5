import AudioLibrary.Proofs.Query.Scopes
import AudioLibrary.Proofs.Relational.Distinct
import AudioLibrary.Query.Compile

/-!
# The rows of a query

The rows that a query gives are made in three steps from the rows of its table: those whose scope
meets the conditions are `matching`; of these the headers keep one for each album, `kept`; what is
kept is sorted by its `keysOf` and shown as `present`.  `rows_compile` says that a query does just
this, and everything that is said about the result of a query goes through it.
-/

namespace AudioLibrary

open AudioLibrary.Relational

namespace Relational

/-- Keeping one of those that are the same commutes with a map. -/
theorem eraseDupsBy_map {α β : Type} (f : α → β) (r : β → β → Bool) (l : List α) :
    (l.map f).eraseDupsBy r = (l.eraseDupsBy fun a b => r (f a) (f b)).map f := by
  induction l using eraseDups_induction fun a b => r (f a) (f b) with
  | nil => rfl
  | cons a l ih =>
      rw [List.map_cons, List.eraseDupsBy_cons, List.eraseDupsBy_cons, List.map_cons, ← ih,
        List.filter_map]
      rfl

/-- A select sorts the scopes that it reads by its keys and shows them. -/
theorem Select.rows_eq_map_mergeSort {α : Type} {tables : Tables} {select : Select}
    {scopeOf : α → Scope} {l : List α} (hdistinct : select.distinct = false)
    (hscopes : select.scopes tables = l.map scopeOf) :
    select.rows tables =
      (l.mergeSort fun a b =>
        compareKeys select.orderBy
          (select.keyValues tables (scopeOf a) (select.project tables (scopeOf a)))
          (select.keyValues tables (scopeOf b) (select.project tables (scopeOf b))) != .gt).map
        fun a => select.project tables (scopeOf a) := by
  -- the statement sorts pairs of keys and shown rows, which is sorting the rows by their keys
  have hsort := List.map_mergeSort (r := fun a b =>
      compareKeys select.orderBy
        (select.keyValues tables (scopeOf a) (select.project tables (scopeOf a)))
        (select.keyValues tables (scopeOf b) (select.project tables (scopeOf b))) != .gt)
    (s := fun a b => compareKeys select.orderBy a.1 b.1 != .gt)
    (f := fun a => (select.keyValues tables (scopeOf a) (select.project tables (scopeOf a)),
      select.project tables (scopeOf a)))
    (l := l) fun a _ b _ => rfl
  unfold Select.rows
  rw [hscopes, List.map_map, hdistinct]
  exact (congrArg (List.map Prod.snd) hsort.symm).trans (List.map_map ..)

end Relational

namespace Shape

variable {s : Store}

/-- The select that a filter becomes. -/
def select (shape : Shape) (spec : FilterSpec) : Select :=
  { items := shape.items
    source := shape.source spec.sort
    conditions := (spec.predicates shape).map Predicate.condition
    groupBy := shape.groupBy
    orderBy := shape.order spec.sort }

/-- Whether the scope of a row meets all conditions. -/
def passes (shape : Shape) (s : Store) (spec : FilterSpec) (row : Row) : Bool :=
  Condition.allHold (Subselect.values s.tables) (shape.scope s spec.sort row)
    ((spec.predicates shape).map Predicate.condition)

/-- The rows that meet all conditions. -/
def matching (shape : Shape) (s : Store) (spec : FilterSpec) : List Row :=
  (s.rows shape.table).filter (shape.passes s spec)

/-- The rows that are shown: all that match, or one for each album. -/
def kept (shape : Shape) (s : Store) (spec : FilterSpec) : List Row :=
  match shape with
  | headers => (headers.matching s spec).eraseDupsBy fun a b =>
      ((s.ownerOf a).value "id").same ((s.ownerOf b).value "id")
  | _ => shape.matching s spec

/-- What is shown of a row. -/
def present (shape : Shape) (s : Store) (spec : FilterSpec) (row : Row) : Row :=
  (shape.select spec).project s.tables (shape.scope s spec.sort row)

/-- The values by which a row is sorted. -/
def keysOf (shape : Shape) (s : Store) (spec : FilterSpec) (row : Row) : List Value :=
  (shape.select spec).keyValues s.tables (shape.scope s spec.sort row) (shape.present s spec row)

/-- Whether a row may stand before another. -/
def mayPrecede (shape : Shape) (s : Store) (spec : FilterSpec) (a b : Row) : Bool :=
  compareKeys (shape.order spec.sort) (shape.keysOf s spec a) (shape.keysOf s spec b) != .gt

theorem eval_album_scope (shape : Shape) (s : Store) (sort : SortOrder) (row : Row)
    (column : String) :
    (Expr.col "a" column).eval (shape.scope s sort row) = (shape.albumOf s row).value column := by
  rw [eval_col, lookup_scope shape s sort row (by decide), lookup_baseScope, Option.getD_some]

theorem eval_albumId_scope (shape : Shape) (s : Store) (sort : SortOrder) (row : Row) :
    (Expr.col "a" "id").eval (shape.scope s sort row) = (shape.albumOf s row).value "id" :=
  eval_album_scope shape s sort row "id"

theorem scopes_select (hs : s.Sound) (shape : Shape) (spec : FilterSpec) :
    (shape.select spec).scopes s.tables =
      (shape.kept s spec).map (shape.scope s spec.sort) := by
  have hpassed : ((shape.select spec).sourceScopes s.tables).filter (fun scope =>
      Condition.allHold (Subselect.values s.tables) scope (shape.select spec).conditions) =
        (shape.matching s spec).map (shape.scope s spec.sort) := by
    show ((shape.source spec.sort).scopes s.tables (Union.rows s.tables) []).filter _ = _
    rw [scopes_source hs, List.filter_map]
    rfl
  unfold Select.scopes
  rw [hpassed]
  cases shape with
  | albums | tracks | albumTracks => rfl
  | headers =>
      show (List.map _ _).eraseDupsBy (fun a b =>
        ((Expr.col "a" "id").eval a).same ((Expr.col "a" "id").eval b)) = _
      rw [eraseDupsBy_map]
      simp only [eval_albumId_scope]
      rfl

/-- **The rows of a query are the rows that are kept, sorted and shown.** -/
theorem rows_compile (hs : s.Sound) (shape : Shape) (spec : FilterSpec) :
    (LibraryQuery.compile shape spec).statement.rows s.tables =
      ((shape.kept s spec).mergeSort (shape.mayPrecede s spec)).map (shape.present s spec) :=
  Select.rows_eq_map_mergeSort rfl (scopes_select hs shape spec)

/-- The rows of a query are those that are kept, in some order. -/
theorem rows_compile_perm (hs : s.Sound) (shape : Shape) (spec : FilterSpec) :
    ((LibraryQuery.compile shape spec).statement.rows s.tables).Perm
      ((shape.kept s spec).map (shape.present s spec)) := by
  rw [rows_compile hs]
  exact (List.mergeSort_perm _ _).map _

theorem length_rows_compile (hs : s.Sound) (shape : Shape) (spec : FilterSpec) :
    ((LibraryQuery.compile shape spec).statement.rows s.tables).length =
      (shape.kept s spec).length := by
  rw [(shape.rows_compile_perm hs spec).length_eq, List.length_map]

end Shape

end AudioLibrary
