import AudioLibrary.Core.Location
import AudioLibrary.Number.Power
import AudioLibrary.Text.Collation

/-!
# What the engine is asked to open

The engine takes a name and some flags.  A name such as `file:library.db?mode=ro` has parameters of
its own, which overrule the flags; parameters of a location that have no flag travel in such a name.
-/

namespace AudioLibrary

/-- Why a database cannot be opened. -/
inductive OpenError where
  /-- The name holds a U+0000. -/
  | nulInName
  /-- The engine refuses it, with a number and a text. -/
  | engine (code : Nat) (message : String)
deriving DecidableEq, Repr

/-- What may be done with a database. -/
inductive Access where
  | unspecified
  | readOnly
  | readWrite
  /-- It may also be made. -/
  | create
deriving DecidableEq, Repr

/-- How much an access allows. -/
def Access.rank : Access → Nat
  | unspecified => 0
  | readOnly => 1
  | readWrite => 2
  | create => 6

/-- What the engine opens. -/
structure Opening where
  /-- The path, empty for a database that is not kept. -/
  path : String
  /-- Whether the name could have parameters. -/
  extended : Bool := false
  access : Access := .create
  memory : Bool := false
  shared : Bool := false
  immutable : Bool := false
  layer : String := "unix"
deriving DecidableEq, Repr

namespace Opening

/-! ## Extended names -/

/-- The text of some bytes in which percent signs stand for bytes, up to a byte zero. -/
def decode (bytes : List Nat) : String :=
  Text.Utf8.lenient ((Location.unescape bytes).takeWhile (· ≠ 0))

/-- The names and values of the parameters in some bytes; those without a name are passed over. -/
def parameters (bytes : List Nat) : List (String × String) :=
  ((bytes.splitOnP (· = 38)).map fun part =>
    (decode (part.takeWhile (· ≠ 61)), decode ((part.dropWhile (· ≠ 61)).drop 1))).filter
      fun p => !p.1.isEmpty

/-- What follows the authority of a name, which must be this machine. -/
def withoutAuthority (bytes : List Nat) : Except OpenError (List Nat) :=
  match bytes with
  | 47 :: 47 :: rest =>
      let authority := Text.Utf8.lenient (rest.takeWhile (· ≠ 47))
      if authority = "" ∨ authority = "localhost" then .ok (rest.dropWhile (· ≠ 47))
      else .error (.engine 1 ("invalid uri authority: " ++ authority))
  | bytes => .ok bytes

/-- The opening with a kind of access, where memory is no kind of access but allowed by any. -/
def withAccess (o : Opening) (value : String) (access : Access) : Except OpenError Opening :=
  let limit := o.access.rank + if o.memory then 128 else 0
  if limit < access.rank then .error (.engine 3 ("access mode not allowed: " ++ value))
  else .ok { o with access, memory := access = .unspecified }

/-- The opening with a parameter.  Those that say nothing here are passed over. -/
def withParameter (o : Opening) (p : String × String) : Except OpenError Opening :=
  match p with
  | ("vfs", value) => .ok { o with layer := value }
  | ("cache", "shared") => .ok { o with shared := true }
  | ("cache", "private") => .ok { o with shared := false }
  | ("cache", value) => .error (.engine 1 ("no such cache mode: " ++ value))
  | ("mode", "ro") => o.withAccess "ro" .readOnly
  | ("mode", "rw") => o.withAccess "rw" .readWrite
  | ("mode", "rwc") => o.withAccess "rwc" .create
  | ("mode", "memory") => o.withAccess "memory" .unspecified
  | ("mode", value) => .error (.engine 1 ("no such access mode: " ++ value))
  | _ => .ok o

/-- Whether the value of a parameter is yes. -/
def isYes (value : String) : Bool :=
  let digits := value.toList.takeWhile Char.isDigit
  let n := digits.foldl (fun n d => 10 * n + (d.toNat - '0'.toNat)) 0
  (n < 2 ^ 31 && n % 256 != 0) ||
    ["on", "yes", "true"].contains (String.ofList (Text.foldCase value.toList))

/-- The opening for an extended name without its first word. -/
def ofExtended (o : Opening) (bytes : List Nat) : Except OpenError Opening := do
  let bytes := (← withoutAuthority bytes).takeWhile (· ≠ 35)
  let ps := parameters ((bytes.dropWhile (· ≠ 63)).drop 1)
  let o ← ps.foldlM withParameter { o with extended := true }
  return { o with
    path := decode (bytes.takeWhile (· ≠ 63))
    immutable := (ps.lookup "immutable").any isYes }

/-! ## Locations -/

/-- The text up to a U+0000. -/
def beforeNul (s : String) : String := String.ofList (s.toList.takeWhile (· ≠ '\x00'))

/-- The opening for a location, before the layer is looked up. -/
def ofParts (l : Location) : Except OpenError Opening :=
  let o : Opening :=
    { path := l.name, access := if l.readOnly then .readOnly else .create
      memory := l.inMemory, shared := l.shared }
  if l.immutable || l.layer.isSome then
    -- blanks are written as plus signs on the way, which stay
    let layer := (l.layer.getD o.layer).map fun c => if c = ' ' then '+' else c
    .ok { o with
      path := beforeNul l.name, extended := true, immutable := l.immutable
      layer := beforeNul layer }
  else if l.name.toList.contains '\x00' then .error .nulInName
  else if "file:".toList.isPrefixOf l.name.toList then
    o.ofExtended ((Location.bytesOf l.name.toList).drop 5)
  else .ok o

/-- The file system layers that there are. -/
def layers : List String := ["unix", "unix-dotfile", "unix-excl", "unix-none", "memdb"]

/-- The opening for a location. -/
def ofLocation (l : Location) : Except OpenError Opening := do
  let o ← ofParts l
  if layers.contains o.layer then return o
  else throw (.engine 1 ("no such vfs: " ++ o.layer))

/-! ## Views -/

/-- Whether the database is not kept under any name. -/
def isTemporary (o : Opening) : Bool := o.path.isEmpty

/-- Whether the database is in the engine's memory. -/
def isMemory (o : Opening) : Bool := o.memory || o.path = ":memory:"

/-- Whether the database cannot be changed.  Only what is read through a layer can be immutable. -/
def isReadOnly (o : Opening) : Bool :=
  o.access = .readOnly || (o.immutable && !o.isTemporary && !o.isMemory)

end Opening

end AudioLibrary
