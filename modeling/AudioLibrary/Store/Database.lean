import AudioLibrary.Config.Core
import AudioLibrary.Query.Adapter
import AudioLibrary.Relational.Limits
import AudioLibrary.Store.Basic

/-!
# Databases

A `Database` is a store behind a connection that can be closed.  `adapter` answers the statements
of the library from it; the other operations change the store, list a table, or look after the
connection.  A closed connection refuses everything but being closed.
-/

namespace AudioLibrary

structure Database where
  store : Store := {}
  closed : Bool := false
  /-- Whether the store must not be changed. -/
  readOnly : Bool := false

namespace Database

/-! ## Events -/

def target : String := "core_library::adapters::sqlite_native"

def event (level : LogLevel) (message : String) (fields : List (String × String) := []) :
    LogEvent :=
  { level, target, message, fields }

def queryEvent (parameters : Nat) : LogEvent :=
  event .debug "Executing query" [("param_count", toString parameters)]

def rowsEvent (rows : Nat) : LogEvent :=
  event .debug "Query executed" [("row_count", toString rows)]

def executeEvent (parameters : Nat) : LogEvent :=
  event .debug "Executing statement" [("param_count", toString parameters)]

/-! ## Errors -/

/-- What a closed connection says. -/
def closedText : String := "attempted to acquire a connection on a closed pool"

/-- What the engine says about a rule that is broken. -/
def engineText (code : Nat) (message : String) : String :=
  "error returned from database: (code: " ++ toString code ++ ") " ++ message

/-- The error of an operation. -/
def failure (operation text : String) : BridgeError := .database (operation ++ " failed: " ++ text)

/-! ## Statements of the library -/

/-- The rows of a statement, unless the connection is closed or the statement refused. -/
def rows (operation : String) (s : Relational.Statement) (db : Database) :
    Except BridgeError (List Row) :=
  if db.closed then .error (failure operation closedText)
  else (s.run db.store.tables).mapError fun r => failure operation (engineText 1 r.message)

/-- What the engine says when a row that must be there is not. -/
def noRowText : String :=
  "no rows returned by a query that expected to return at least one row"

def adapter : Adapter Database where
  query s db :=
    let result := db.rows "Query" s
    { result, state := db
      events := queryEvent s.arguments.length ::
        match result with
        | .ok rows => [rowsEvent rows.length]
        | .error _ => [] }
  queryOne s db :=
    { state := db
      result := (db.rows "Query one" s).bind fun rows =>
        match rows with
        | row :: _ => .ok row
        | [] => .error (failure "Query one" noRowText) }
  queryOptional s db :=
    { state := db, result := (db.rows "Query one optional" s).map List.head? }

/-! ## Changes -/

/-- A change of a table, which the host names, as it names columns. -/
inductive Change where
  | insert (table : String) (values : Row)
  | update (table : String) (number : Int64) (values : Row)
  | delete (table : String) (number : Int64)

namespace Change

/-- How many values the statement for a change carries. -/
def parameterCount : Change → Nat
  | insert _ values => values.length
  | update _ _ values => values.length + 1
  | delete .. => 1

/-- The name of the table in the statement for a change. -/
def table : Change → NamePlace
  | insert table [] => ⟨table, "DEFAULT"⟩
  | insert table _ => ⟨table, "("⟩
  | update table .. => ⟨table, "SET"⟩
  | delete table _ => ⟨table, "WHERE"⟩

/-- The names of columns in the statement for a change; an update without values still has a place
for one. -/
def columns : Change → List NamePlace
  | insert _ values => NamePlace.listed ")" (values.map Prod.fst)
  | update _ _ [] => [⟨"", "WHERE"⟩]
  | update _ _ values => values.map fun (name, _) => ⟨name, "="⟩
  | delete .. => []

/-- The store after a change of a table, and how many rows were changed. -/
def applyTo (s : Store) (t : Table) : Change → Except Violation (Store × Nat)
  | insert name values => do
      let values ← Store.underColumns t (.unlisted name) values
      return (← s.insert t values, 1)
  | update _ number values => do
      let values ← Store.underColumns t .noColumn values
      -- of several values for a column the last counts
      s.update t number values.reverse
  | delete _ number => s.delete t number

/-- The store after a change, and how many rows were changed. -/
def apply (s : Store) (change : Change) : Except Violation (Store × Nat) := do
  change.applyTo s (← Store.tableNamed change.table change.columns)

end Change

/-- Changes the store and says how many rows were changed. -/
def execute (change : Change) : Action BridgeError Database Nat := do
  Action.emit (executeEvent change.parameterCount)
  let db ← Action.getState
  if db.closed then
    throw (failure "Execute" closedText)
  match change.apply db.store with
  | .ok (store, n) =>
      Action.setState { db with store }
      return n
  | .error v => throw (failure "Execute" (engineText v.code v.message))

/-- All rows of the table that a host names. -/
def dump (table : String) : Action BridgeError Database (List Row) := do
  Action.emit (queryEvent 0)
  let db ← Action.getState
  if db.closed then
    throw (failure "Query" closedText)
  match Store.tableNamed ⟨table, "ORDER"⟩ [] with
  | .ok t =>
      let rows := db.store.dump t
      Action.emit (rowsEvent rows.length)
      return rows
  | .error v => throw (failure "Query" (engineText v.code v.message))

/-! ## The connection -/

/-- What is logged when a database is about to be opened. -/
def openingEvent (c : DatabaseConfig) : LogEvent :=
  event .info "Creating SQLite database adapter"
    [("database_url", c.url), ("min_connections", toString c.minConnections.toNat),
      ("max_connections", toString c.maxConnections.toNat)]

/-- What is logged when a database has been opened. -/
def openedEvent (c : DatabaseConfig) : LogEvent :=
  event .info "SQLite connection pool created successfully"
    [("connections", toString c.minConnections.toNat)]

/-- Whether the database answers. -/
def health : Action BridgeError Database Unit := do
  if (← Action.getState).closed then
    Action.emit (event .warn "Database health check failed" [("error", closedText)])
    throw (failure "Health check" closedText)

/-- Why the schema cannot be brought up to date. -/
def migrationRefusal? (db : Database) : Option String :=
  if db.closed then some closedText
  else if db.readOnly then some (engineText 8 "attempt to write a readonly database")
  else none

/-- Brings the schema up to date, which changes nothing where it is. -/
def migrate : Action BridgeError Database Unit := do
  Action.emit (event .debug "Initializing database adapter")
  Action.emit (event .info "Running library migrations")
  if let some reason := (← Action.getState).migrationRefusal? then
    let text := "while executing migrations: " ++ reason
    Action.emit (event .warn "Migration failed" [("error", text)])
    throw (failure "Migration" text)
  Action.emit (event .info "Library migrations completed")
  health
  Action.emit (event .info "Database adapter initialized successfully")

def close : Action BridgeError Database Unit := do
  Action.emit (event .info "Closing database connection pool")
  Action.modifyState fun db => { db with closed := true }

/-- A fresh database in memory. -/
def openInMemory : Action BridgeError Database Unit := do
  Action.emit (openingEvent .inMemory)
  Action.setState {}
  Action.emit (openedEvent .inMemory)
  migrate

end Database

end AudioLibrary
