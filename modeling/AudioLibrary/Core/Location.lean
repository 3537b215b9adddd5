import AudioLibrary.Text.Quoted
import AudioLibrary.Text.Utf8

/-!
# Where a database is

The address of a database is a name, perhaps with parameters after a question mark:
`sqlite:library.db?mode=ro`.  In the name, and in names and values of parameters, a percent sign and
two hexadecimal digits stand for a byte.
-/

namespace AudioLibrary

structure Location where
  /-- The name, which is empty for a database without one. -/
  name : String
  /-- Whether the database is in memory. -/
  inMemory : Bool := false
  readOnly : Bool := false
  /-- Whether connections share what they have read. -/
  shared : Bool := false
  /-- Whether the database is said not to change. -/
  immutable : Bool := false
  /-- The file system layer to use, if one is named. -/
  layer : Option String := none
deriving DecidableEq, Repr

namespace Location

/-! ## Percent signs -/

/-- The bytes of a text. -/
def bytesOf (text : List Char) : List Nat := text.flatMap fun c =>
  (String.singleton c).toUTF8.toList.map UInt8.toNat

def hexDigit? (b : Nat) : Option Nat :=
  if 48 ≤ b ∧ b ≤ 57 then some (b - 48)
  else if 65 ≤ b ∧ b ≤ 70 then some (b - 55)
  else if 97 ≤ b ∧ b ≤ 102 then some (b - 87)
  else none

/-- The bytes with those that percent signs stand for. -/
def unescape : List Nat → List Nat
  | 37 :: a :: b :: rest =>
      match hexDigit? a, hexDigit? b with
      | some m, some n => (16 * m + n) :: unescape rest
      | _, _ => 37 :: unescape (a :: b :: rest)
  | b :: rest => b :: unescape rest
  | [] => []

/-! ## Parameters -/

/-- A name or a value of a parameter; a plus sign stands for a blank. -/
def parameterText (text : List Char) : String :=
  Text.Utf8.lenient (unescape (bytesOf (text.map fun c => if c = '+' then ' ' else c)))

/-- The names and values of parameters; empty ones are passed over. -/
def parameters (text : List Char) : List (String × String) :=
  ((text.splitOnP (· = '&')).filter (· ≠ [])).map fun part =>
    (parameterText (part.takeWhile (· ≠ '=')), parameterText ((part.dropWhile (· ≠ '=')).drop 1))

/-- What is said of a value that a parameter does not take. -/
def unknownValue (name value : String) : String :=
  "unknown value " ++ Text.quoted value ++ " for \x60" ++ name ++ "\x60"

/-- The location with a parameter. -/
def withParameter (l : Location) (name value : String) : Except String Location :=
  match name with
  | "mode" =>
      match value with
      | "ro" => .ok { l with readOnly := true }
      | "rw" | "rwc" => .ok l
      | "memory" => .ok { l with inMemory := true, shared := true }
      | _ => .error (unknownValue name value)
  | "cache" =>
      match value with
      | "private" => .ok { l with shared := false }
      | "shared" => .ok { l with shared := true }
      | _ => .error (unknownValue name value)
  | "immutable" =>
      match value with
      | "true" | "1" => .ok { l with immutable := true }
      | "false" | "0" => .ok { l with immutable := false }
      | _ => .error (unknownValue name value)
  | "vfs" => .ok { l with layer := some value }
  | _ =>
      .error ("unknown query parameter \x60" ++ name ++ "\x60 while parsing connection URL")

/-! ## Addresses -/

/-- A text without a word at its start, however often it stands there. -/
def dropAll (word text : List Char) : List Char :=
  if _ : word ≠ [] ∧ word.isPrefixOf text then dropAll word (text.drop word.length)
  else text
termination_by text.length
decreasing_by
  rename_i h
  obtain ⟨hw, hp⟩ := h
  have hle := (List.isPrefixOf_iff_prefix.1 hp).length_le
  have hpos : 0 < word.length := List.length_pos_iff.2 hw
  simp only [List.length_drop]
  omega

/-- What follows the scheme of an address. -/
def withoutScheme (url : String) : List Char :=
  dropAll "sqlite:".toList (dropAll "sqlite://".toList url.toList)

/-- The location that a name stands for. -/
def ofName (name : List Char) : Except String Location :=
  -- a database in memory has no name, so that no other one can be taken for it
  if name = ":memory:".toList then .ok { name := "", inMemory := true, shared := true }
  else (Text.Utf8.strict (unescape (bytesOf name))).map fun name => { name }

/-- The location that an address names. -/
def ofUrl (url : String) : Except String Location := do
  let rest := withoutScheme url
  let location ← ofName (rest.takeWhile (· ≠ '?'))
  (parameters ((rest.dropWhile (· ≠ '?')).drop 1)).foldlM
    (fun l p => l.withParameter p.1 p.2) location

end Location

end AudioLibrary
