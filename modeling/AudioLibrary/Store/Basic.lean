import AudioLibrary.Relational.Eval
import AudioLibrary.Store.Schema

/-!
# Stores

A `Store` holds the rows of every table in the order of their numbers.  A row has its number and a
value for each column of its table.

`insert`, `update` and `delete` check one statement's worth of change and give the store after it.
A delete takes along the rows that refer to what it removes.
-/

namespace AudioLibrary

open AudioLibrary.Relational

structure Store where
  rows : Table → List Row := fun _ => []
  /-- The greatest number that a table has given. -/
  lastNumber : Table → Int64 := fun _ => 0

/-- Why a change is refused. -/
inductive Violation where
  /-- A value does not fit where it must. -/
  | mismatch
  /-- No number is left. -/
  | full
  | missing (table : Table) (column : String)
  | repeated (table : Table) (columns : List String) (kind : KeyKind)
  /-- A row refers to one that is not there. -/
  | dangling
  /-- A column that the table lacks is changed, or rows are looked for by it. -/
  | noColumn (column : String)
  /-- A value is given for a column that the table lacks. -/
  | unlisted (table column : String)
  | noTable (table : String)
  | misread (reason : Misreading)
deriving DecidableEq, Repr

namespace Violation

/-- The number of the rule that is broken. -/
def code : Violation → Nat
  | noColumn _ | unlisted .. | noTable _ | misread _ => 1
  | full => 13
  | mismatch => 20
  | dangling => 787
  | missing .. => 1299
  | repeated _ _ .primary => 1555
  | repeated _ _ .other => 2067
  | repeated _ _ .number => 2579

/-- Columns with their table. -/
def qualified (table : Table) (columns : List String) : String :=
  ", ".intercalate (columns.map fun column => table.name ++ "." ++ column)

def message : Violation → String
  | noColumn column => "no such column: " ++ column
  | unlisted table column => "table " ++ table ++ " has no column named " ++ column
  | noTable table => "no such table: " ++ table
  | misread (.misplaced word) => "near \"" ++ word ++ "\": syntax error"
  | misread (.unknown text) => "unrecognized token: \"" ++ text ++ "\""
  | full => "database or disk is full"
  | mismatch => "datatype mismatch"
  | dangling => "FOREIGN KEY constraint failed"
  | missing table column => "NOT NULL constraint failed: " ++ qualified table [column]
  | repeated table columns _ => "UNIQUE constraint failed: " ++ qualified table columns

end Violation

namespace Store

/-! ## Views -/

/-- The rows by the names of tables. -/
def tables (s : Store) : Tables := fun name =>
  match Table.ofName? name with
  | some t => s.rows t
  | none => []

/-- The number of a row. -/
def number? (t : Table) (row : Row) : Option Int64 :=
  (row.value t.numberColumn).integer?

/-- The numbers of a table's rows. -/
def numbers (s : Store) (t : Table) : List Int64 := (s.rows t).filterMap (number? t)

/-! ## Checks -/

/-- Whether every column that must have a value has one. -/
def checkRequired (t : Table) (row : Row) : Except Violation Unit :=
  match t.columns.find? fun c => c.required && (row.value c.name).isNull with
  | some c => .error (.missing t c.name)
  | none => .ok ()

/-- Whether two rows agree in a key; nothing agrees with nothing. -/
def agree (columns : List String) (row other : Row) : Bool :=
  columns.all fun c => (equal (row.value c) (other.value c)).holds

/-- Whether a row agrees with no other row in a key. -/
def checkUnique (t : Table) (row : Row) (others : List Row) : Except Violation Unit :=
  match t.keys.find? fun k => others.any (agree k.columns row) with
  | some k => .error (.repeated t k.columns k.kind)
  | none => .ok ()

/-- Whether all that a row refers to is there. -/
def refersWell (s : Store) (t : Table) (row : Row) : Bool :=
  t.references.all fun (column, target) =>
    match row.value column with
    | .null => true
    | .integer i => (s.numbers target).contains i
    | _ => false

/-- Whether all that any row refers to is there. -/
def checkReferences (s : Store) : Except Violation Unit :=
  if Table.all.all fun t => (s.rows t).all (s.refersWell t) then .ok () else .error .dangling

/-! ## Changes of tables -/

/-- The store with other rows in a table. -/
def setRows (s : Store) (t : Table) (rows : List Row) : Store :=
  { s with rows := fun u => if u = t then rows else s.rows u }

/-- A row among others by its number, or at the end if it has none. -/
def place (t : Table) (row : Row) (others : List Row) : List Row :=
  match number? t row with
  | none => others ++ [row]
  | some n =>
      let precedes := fun other => (number? t other).any (· < n)
      others.takeWhile precedes ++ row :: others.dropWhile precedes

/-- Remembers a number, so that it is not given again. -/
def noteNumber (s : Store) (t : Table) (row : Row) : Store :=
  match number? t row with
  | some n =>
      if t.numbersOnce ∧ s.lastNumber t < n then
        { s with lastNumber := fun u => if u = t then n else s.lastNumber u }
      else s
  | none => s

/-! ## Names -/

/-- The table that a host names in a statement, if all names of the statement can be read. -/
def tableNamed (table : NamePlace) (columns : List NamePlace) : Except Violation Table :=
  match (table :: columns).findSome? NamePlace.misreading? with
  | some reason => .error (.misread reason)
  | none =>
      match Table.named? table.name with
      | some t => .ok t
      | none => .error (.noTable table.name)

/-- Values under the names of the schema, or the refusal of the first column that is not there. -/
def underColumns (t : Table) (refusal : String → Violation) (values : Row) :
    Except Violation Row :=
  values.mapM fun (name, v) =>
    match t.columnNamed? name with
    | some column => .ok (column, v)
    | none => .error (refusal name)

/-! ## Inserting -/

/-- A number from a value that is to be one. -/
def asNumber (v : Value) : Except Violation Int64 :=
  match Affinity.integer.store v with
  | .integer i => .ok i
  | _ => .error .mismatch

/-- A number that no row of any table has. -/
def unusedNumber (s : Store) : Int64 :=
  let used := Table.all.flatMap s.numbers
  let candidates := (List.range (used.length + 1)).map fun k => Int64.ofNat (2 ^ 61 + k)
  (candidates.find? fun n => !used.contains n).getD 0

/-- A number for a row that gives none: one more than any in use, or ever given.  After the greatest
number of all only a table that may give numbers again has one left. -/
def nextNumber (s : Store) (t : Table) : Except Violation Int64 :=
  let last := if t.numbersOnce then [s.lastNumber t] else []
  match (last ++ s.numbers t).max? with
  -- only a table that may give numbers again can be without any
  | none => .ok 1
  | some n =>
      if n ≠ Int64.maxValue then .ok (n + 1)
      else if t.numbersOnce then .error .full
      else .ok s.unusedNumber

/-- The number that a new row is to have. -/
def numberFor (s : Store) (t : Table) (given : Value) : Except Violation Int64 :=
  if given.isNull then s.nextNumber t else asNumber given

/-- What a column stores of the values that are given, or of what stands for them. -/
def cell (c : Column) (values : Row) (otherwise : Value) : String × Value :=
  (c.name, c.affinity.store (((values.get? c.name).map Value.bound).getD otherwise))

/-- The row with a number, which comes first. -/
def withNumber (t : Table) (n : Int64) (row : Row) : Row :=
  (t.numberColumn, .integer n) :: row.filter fun (name, _) => name ≠ t.numberColumn

/-- The row that values make. -/
def newRow (t : Table) (n : Int64) (values : Row) : Row :=
  withNumber t n (t.columns.map fun c => cell c values c.standard)

/-- Adds the row that values make.  Of several values for a column the first counts, but of several
for the number the last. -/
def insert (s : Store) (t : Table) (values : Row) : Except Violation Store := do
  let n ← s.numberFor t (Row.value values.reverse t.numberColumn).bound
  let row := newRow t n values
  checkRequired t row
  checkUnique t row (s.rows t)
  -- references count last, when the row is in its place
  let s := (s.setRows t (place t row (s.rows t))).noteNumber t row
  s.checkReferences
  return s

/-! ## Updating -/

/-- The row after values have been put into it. -/
def changedRow (t : Table) (n : Int64) (row values : Row) : Row :=
  withNumber t n (t.columns.map fun c => cell c values (row.value c.name))

/-- The column that rows are looked for by. -/
def lookupColumn (t : Table) : Except Violation String :=
  if t.listsNumber then .ok t.numberColumn else .error (.noColumn "id")

/-- Puts values into the row with a number, if there is one, and says how many rows changed. -/
def update (s : Store) (t : Table) (n : Int64) (values : Row) :
    Except Violation (Store × Nat) := do
  let column ← lookupColumn t
  match (s.rows t).find? fun row => number? t row = some n with
  | none => return (s, 0)
  | some row =>
      let number ← match values.get? column with
        | some v => asNumber v.bound
        | none => pure n
      let changed := changedRow t number row values
      let others := (s.rows t).filter fun row => number? t row ≠ some n
      -- a changed number moves the row, but is not remembered as given
      checkRequired t changed
      checkUnique t changed others
      let s := s.setRows t (place t changed others)
      s.checkReferences
      return (s, 1)

/-! ## Deleting -/

/-- The store without rows that refer to what is not there. -/
def prune (s : Store) : Store :=
  -- one pass is enough, since a table comes after those that it refers to
  Table.all.foldl (fun s t => s.setRows t ((s.rows t).filter (s.refersWell t))) s

/-- Removes the row with a number, if there is one, and says how many rows that were. -/
def delete (s : Store) (t : Table) (n : Int64) : Except Violation (Store × Nat) := do
  let _ ← lookupColumn t
  let kept := (s.rows t).filter fun row => number? t row ≠ some n
  if kept.length = (s.rows t).length then
    return (s, 0)
  return ((s.setRows t kept).prune, 1)

/-! ## Listing -/

/-- The order of two rows by columns; the first that tells them apart decides. -/
def compareBy : List String → Row → Row → Ordering
  | [], _, _ => .eq
  | c :: cs, a, b => (Value.compareBy .binary (a.value c) (b.value c)).then (compareBy cs a b)

/-- The columns of a row, without what stands beside them. -/
def columnValues (t : Table) (row : Row) : Row := t.columns.map fun c => (c.name, row.value c.name)

/-- All rows of a table, ordered by its first two columns. -/
def dump (s : Store) (t : Table) : List Row :=
  ((s.rows t).map (columnValues t)).mergeSort fun a b =>
    compareBy ((t.columns.take 2).map Column.name) a b != .gt

end Store

end AudioLibrary
