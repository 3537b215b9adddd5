import AudioLibrary.Core.Opening
import AudioLibrary.Store.Basic

/-!
# Where databases are kept

What a process can tell of the databases around it: directories, files with a store each, and stores
in memory that have a name.  A store in memory is there as long as a connection to it is open.
-/

namespace AudioLibrary

/-- Where a store can be found again. -/
inductive Place where
  /-- A file, by the names on the way to it from the root. -/
  | file (path : List String)
  /-- A name that connections share in a layer. -/
  | shared (layer name : String)
  /-- A name in the layer that keeps its files in memory. -/
  | inMemory (name : String)
deriving DecidableEq, Repr

structure Disk where
  /-- The current directory. -/
  current : List String := []
  directories : List (List String) := []
  stores : List (Place × Store) := []

/-- A database that has been opened. -/
structure Opened where
  /-- Where it is kept, if it is. -/
  place : Option Place
  store : Store
  readOnly : Bool

namespace Disk

/-! ## Paths -/

/-- A way after one more name. -/
def walk (path : List String) (name : String) : List String :=
  if name = "" ∨ name = "." then path
  else if name = ".." then path.dropLast
  else path ++ [name]

/-- The names on the way to a path from the root. -/
def resolve (disk : Disk) (path : String) : List String :=
  ((path.toList.splitOnP (· = '/')).map String.ofList).foldl walk
    (if path.toList.head? = some '/' then [] else disk.current)

/-- How many bytes a name in a directory may have. -/
def maxNameSize : Nat := 255

/-- How many bytes a path may have. -/
def maxPathSize : Nat := 512

/-- How many bytes longer the name of a journal is than that of its file. -/
def journalSize : Nat := 8

/-- Whether a file and its journal can have the path. -/
def isPossible (disk : Disk) (path : List String) : Bool :=
  match path.getLast? with
  | none => false
  | some name =>
      disk.directories.contains path.dropLast && !disk.directories.contains path &&
        name.utf8ByteSize + journalSize ≤ maxNameSize &&
        path.foldl (fun n name => n + name.utf8ByteSize + 1) 0 + journalSize ≤ maxPathSize

/-! ## Opening -/

/-- Why a file cannot be opened. -/
def cannotOpen : OpenError := .engine 14 "unable to open database file"

/-- Where an opening finds a store; nowhere if it has one of its own. -/
def placeOf (disk : Disk) (o : Opening) : Option Place :=
  if o.isTemporary then none
  else if o.isMemory then if o.extended && o.shared then some (.shared o.layer o.path) else none
  else if o.layer = "memdb" then
    -- only names from the root are known to all
    if 1 < o.path.utf8ByteSize && (o.path.front = '/' || o.path.front = '\\') then
      some (.inMemory o.path)
    else if o.shared then some (.shared o.layer o.path)
    else none
  else some (.file (disk.resolve o.path))

/-- Opens a database.  A file that is not there is made, if it may be. -/
def openStore (disk : Disk) (o : Opening) : Except OpenError Opened := do
  let place := disk.placeOf o
  let found := place.bind (disk.stores.lookup ·)
  if let some (.file path) := place then
    if !disk.isPossible path || (found.isNone && o.access ≠ .create) then
      throw cannotOpen
  return { place, store := found.getD {}, readOnly := o.isReadOnly }

/-- The disk with the store that was opened at a place.  In memory it is there only while it is
open. -/
def keep (disk : Disk) (place : Place) (store : Store) (stillOpen : Bool) : Disk :=
  let others := disk.stores.filter (·.1 ≠ place)
  match place, stillOpen with
  | .file _, _ | _, true => { disk with stores := (place, store) :: others }
  | _, false => { disk with stores := others }

end Disk

end AudioLibrary
