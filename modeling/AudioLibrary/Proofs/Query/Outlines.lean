import AudioLibrary.Proofs.Query.Readable
import AudioLibrary.Proofs.Query.Replies
import AudioLibrary.Proofs.Query.Skeleton
import AudioLibrary.Store.Database

/-!
# Outlines of replies

The `Outline` of a reply keeps whether there is one, the numbers in it and whether it can be read,
and forgets the rows.  `Reply.agree_of_outline_all_eq` and its siblings say what replies of one
outline have in common.

The other side of an exchange is the statement.  Filters of one skeleton are compiled into
statements that are `Similar`, which differ in the values of their arguments alone, and the events
of their compilation are equal.

An adapter that logs nothing but this is the same to both sides, `Adapter.LogsAlike`; the store is
such an adapter, `Database.logsAlike`.
-/

namespace AudioLibrary

open AudioLibrary.Relational

variable {σ τ α β δ ε : Type}

/-! ## Outlines -/

/-- What is known of a reply: whether there is one, how many rows it has and whether all of them can
be read, which number of rows it gives, or whether there is a row. -/
inductive Outline where
  | failed
  | rows (number : Nat) (readable : Bool)
  | count (total : Option UInt64)
  | found (found : Bool)
deriving DecidableEq, Repr

/-- The outline of a reply to someone who can read some of the rows. -/
def Reply.outline (readable : Row → Bool) : Reply → Outline
  | all (.ok rows) => .rows rows.length (rows.all readable)
  | one (.ok row) => .count (LibraryService.readCount row).toOption
  | optional (.ok row?) => .found row?.isSome
  | all (.error _) | one (.error _) | optional (.error _) => .failed

/-- Whether two statements are the same up to the values of their arguments. -/
def Relational.Statement.Similar (s t : Statement) : Prop :=
  s.sql = t.sql ∧ s.arguments.length = t.arguments.length

/-- Whether two adapters log the same where the statements are similar and the replies have the same
outline. -/
structure Adapter.LogsAlike (readable : Row → Bool) (a : Adapter σ) (b : Adapter τ) : Prop where
  query : ∀ {s t : Statement} {x y}, s.Similar t →
    (Reply.all (a.query s x).result).outline readable =
      (Reply.all (b.query t y).result).outline readable →
    (a.query s x).events = (b.query t y).events
  queryOne : ∀ {s t : Statement} {x y}, s.Similar t →
    (Reply.one (a.queryOne s x).result).outline readable =
      (Reply.one (b.queryOne t y).result).outline readable →
    (a.queryOne s x).events = (b.queryOne t y).events
  queryOptional : ∀ {s t : Statement} {x y}, s.Similar t →
    (Reply.optional (a.queryOptional s x).result).outline readable =
      (Reply.optional (b.queryOptional t y).result).outline readable →
    (a.queryOptional s x).events = (b.queryOptional t y).events

/-! ## Similar queries -/

/-- Whether two queries have the same shape and similar statements, in any wraps. -/
def LibraryQuery.Similar (q r : LibraryQuery) : Prop :=
  q.shape = r.shape ∧ ∀ wraps, (q.wrapped wraps).statement.Similar (r.wrapped wraps).statement

section Skeletons

variable {spec other : FilterSpec} (hskeleton : spec.skeleton = other.skeleton) (shape : Shape)

include hskeleton

/-- Filters of one skeleton have similar queries. -/
theorem similar_compile :
    (LibraryQuery.compile shape spec).Similar (LibraryQuery.compile shape other) := by
  refine ⟨rfl, fun wraps => ?_⟩
  have hcount : ∀ spec : FilterSpec,
      placeholderCount ((LibraryQuery.compile shape spec).wrapped wraps).statement.sql =
        ((LibraryQuery.compile shape spec).wrapped wraps).statement.arguments.length :=
    fun spec => Rendered.placeholderCount_sql
      (LibraryQuery.binds_wrapped (Binds.compile spec shape) wraps).closed
  have hsql : ((LibraryQuery.compile shape spec).wrapped wraps).statement.sql =
      ((LibraryQuery.compile shape other).wrapped wraps).statement.sql := by
    rw [LibraryQuery.sql_wrapped, LibraryQuery.sql_wrapped, hskeleton]
  refine ⟨hsql, ?_⟩
  rw [← hcount, ← hcount, hsql]

theorem length_predicates_eq :
    (spec.predicates shape).length = (other.predicates shape).length := by
  have hblank : (spec.predicates shape).map Predicate.blank =
      (other.predicates shape).map Predicate.blank := by
    rw [map_blank_predicates, map_blank_predicates, hskeleton]
  simpa only [List.length_map] using congrArg List.length hblank

/-- Compiling filters of one skeleton is logged in the same words. -/
theorem compiledEvent_eq :
    LibraryQuery.compiledEvent shape spec = LibraryQuery.compiledEvent shape other := by
  have harguments : (LibraryQuery.compile shape spec).statement.arguments.length =
      (LibraryQuery.compile shape other).statement.arguments.length :=
    ((similar_compile hskeleton shape).2 []).2
  unfold LibraryQuery.compiledEvent
  rw [length_predicates_eq hskeleton, harguments]

end Skeletons

/-! ## Results that agree -/

/-- Whether two results are errors both, or values that are related. -/
inductive Agree (R : α → β → Prop) : Except ε α → Except δ β → Prop where
  | error (e : ε) (e' : δ) : Agree R (.error e) (.error e')
  | ok {a : α} {b : β} (h : R a b) : Agree R (.ok a) (.ok b)

theorem Agree.mapError {R : α → β → Prop} {r : Except ε α} {r' : Except ε β} (h : Agree R r r')
    (f : ε → δ) : Agree R (r.mapError f) (r'.mapError f) := by
  cases h with
  | error e e' => exact .error (f e) (f e')
  | ok hab => exact .ok hab

theorem agree_self (r : Except ε α) : Agree (fun a b => a = b) r r := by
  cases r with
  | error e => exact .error e e
  | ok a => exact .ok rfl

theorem agree_of_toOption_eq {r r' : Except ε α} (h : r.toOption = r'.toOption) :
    Agree (fun a b => a = b) r r' := by
  rcases r with e | a <;> rcases r' with e' | b
  · exact .error e e'
  · cases h
  · cases h
  · exact .ok (Option.some.inj h)

/-- Rows are read if each of them can be read. -/
theorem isOk_mapM (read : Row → Except ε α) (rows : List Row) :
    (rows.mapM read).isOk = rows.all fun row => (read row).isOk := by
  induction rows with
  | nil => rfl
  | cons row rows ih =>
      rw [List.mapM_cons, List.all_cons, ← ih]
      rcases read row with e | item
      · rfl
      · rcases rows.mapM read with e | items <;> rfl

/-- As many rows are read from as many rows, if all of them can be read. -/
theorem agree_mapM {read : Row → Except ε α} {rows rows' : List Row}
    (hlength : rows.length = rows'.length)
    (hall : rows.all (fun row => (read row).isOk) = rows'.all fun row => (read row).isOk) :
    Agree (fun items items' => items.length = items'.length) (rows.mapM read)
      (rows'.mapM read) := by
  rw [← isOk_mapM, ← isOk_mapM] at hall
  rcases hitems : rows.mapM read with e | items <;>
    rcases hitems' : rows'.mapM read with e' | items' <;> rw [hitems, hitems'] at hall
  · exact .error e e'
  · cases hall
  · cases hall
  · refine .ok ?_
    rw [← length_of_mapM_eq_ok hitems, ← length_of_mapM_eq_ok hitems', hlength]

/-! ## Replies of one outline -/

namespace Reply

variable {readable : Row → Bool}

theorem agree_of_outline_all_eq {r r' : Except BridgeError (List Row)}
    (h : (all r).outline readable = (all r').outline readable) :
    Agree (fun rows rows' =>
      rows.length = rows'.length ∧ rows.all readable = rows'.all readable) r r' := by
  rcases r with e | rows <;> rcases r' with e' | rows'
  · exact .error e e'
  · cases h
  · cases h
  · exact .ok (Outline.rows.inj h)

theorem agree_of_outline_one_eq {r r' : Except BridgeError Row}
    (h : (one r).outline readable = (one r').outline readable) :
    Agree (fun row row' => (LibraryService.readCount row).toOption =
      (LibraryService.readCount row').toOption) r r' := by
  rcases r with e | row <;> rcases r' with e' | row'
  · exact .error e e'
  · cases h
  · cases h
  · exact .ok (Outline.count.inj h)

theorem agree_of_outline_optional_eq {r r' : Except BridgeError (Option Row)}
    (h : (optional r).outline readable = (optional r').outline readable) :
    Agree (fun row? row?' => row?.isNone = row?'.isNone) r r' := by
  rcases r with e | row? <;> rcases r' with e' | row?'
  · exact .error e e'
  · cases h
  · cases h
  · refine .ok ?_
    rw [← Option.not_isSome, ← Option.not_isSome, Outline.found.inj h]

end Reply

/-- What a query of the store logs. -/
theorem Database.events_query (s : Statement) (db : Database) :
    (adapter.query s db).events = queryEvent s.arguments.length ::
      ((adapter.query s db).result.toOption.map fun rows => rowsEvent rows.length).toList := by
  unfold adapter
  dsimp only
  cases db.rows "Query" s <;> rfl

theorem Database.events_queryOne (s : Statement) (db : Database) :
    (adapter.queryOne s db).events = [] := rfl

theorem Database.events_queryOptional (s : Statement) (db : Database) :
    (adapter.queryOptional s db).events = [] := rfl

/-- **The store logs alike**: the number of arguments and the number of rows are all that it
logs. -/
theorem Database.logsAlike (readable : Row → Bool) :
    Database.adapter.LogsAlike readable Database.adapter := by
  constructor
  case query =>
    intro s t x y hsimilar houtline
    rw [events_query, events_query, hsimilar.2]
    have hagree := Reply.agree_of_outline_all_eq houtline
    revert hagree
    generalize (adapter.query s x).result = r
    generalize (adapter.query t y).result = r'
    rintro (_ | ⟨hlength, -⟩)
    · rfl
    · show _ :: [rowsEvent _] = _ :: [rowsEvent _]
      rw [hlength]
  case queryOne =>
    intro s t x y _ _
    rw [events_queryOne, events_queryOne]
  case queryOptional =>
    intro s t x y _ _
    rw [events_queryOptional, events_queryOptional]

end AudioLibrary
