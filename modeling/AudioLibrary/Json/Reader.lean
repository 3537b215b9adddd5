import AudioLibrary.Json.Parser
import AudioLibrary.Json.Scaled

/-!
# Reading typed values from JSON

A reader takes a document to a value or refuses it.  A record may be written as an object, whose
unknown members are passed over and whose known members must not repeat, or as an array of its
fields in order.  A variant without content is written by its name, or as an object whose one
member has that name and no content.
-/

namespace AudioLibrary.Json

open AudioLibrary.Number

/-! ## Scalars -/

def string? : Json → Option String
  | .text s => s
  | _ => none

def bool? : Json → Option Bool
  | .bool b => some b
  | _ => none

/-- The integer that a plain number spells. -/
def int? : Json → Option Int
  | .number n => n.toInt?
  | _ => none

/-- A 64-bit integer. -/
def int64? (j : Json) : Option Int64 := do
  let i ← j.int?
  if Int64.minValue.toInt ≤ i ∧ i ≤ Int64.maxValue.toInt then return Int64.ofInt i else none

/-- A number from 0 to 255. -/
def byte? (j : Json) : Option UInt8 := do
  let i ← j.int?
  if 0 ≤ i ∧ i < 256 then return i.toNat.toUInt8 else none

/-- A list, each item read alike. -/
def list? {α : Type} (read : Json → Option α) : Json → Option (List α)
  | .array items => items.mapM read
  | _ => none

/-- A value or nothing, which is written `null`. -/
def option? {α : Type} (read : Json → Option α) : Json → Option (Option α)
  | .null => some none
  | j => (read j).map some

/-- A floating point number; integers are read as such. -/
def double? : Json → Option Double
  | .number n => n.toDouble?
  | _ => none

/-! ## Records and variants -/

/-- The members of an object, unless a name stands for no text. -/
def named? (members : List (Option String × Json)) : Option (List (String × Json)) :=
  members.mapM fun m => m.1.map (·, m.2)

/-- Whether no name stands twice. -/
def distinctNames : List (String × Json) → Bool
  | [] => true
  | m :: ms => !(ms.any (·.1 == m.1)) && distinctNames ms

/-- The fields of a record that a document gives. -/
def fields? (names : List String) : Json → Option (List (String × Json))
  | .object members => do
      let known := (← named? members).filter fun m => names.contains m.1
      if distinctNames known then return known else none
  | .array items => if items.length ≤ names.length then some (names.zip items) else none
  | _ => none

/-- The fields of a record that must be given whole if it is written as an array. -/
def allFields? (names : List String) : Json → Option (List (String × Json))
  | .array items => if items.length = names.length then some (names.zip items) else none
  | j => j.fields? names

/-- A field that must be given. -/
def required? {α : Type} (fields : List (String × Json)) (name : String) (read : Json → Option α) :
    Option α := do
  read (← fields.lookup name)

/-- A field with a value for when it is not given. -/
def defaulted? {α : Type} (fields : List (String × Json)) (name : String) (value : α)
    (read : Json → Option α) : Option α :=
  match fields.lookup name with
  | none => some value
  | some j => read j

/-- The name of a variant and its content, if it is written with one. -/
def variant? : Json → Option (String × Option Json)
  | .text (some name) => some (name, none)
  | .object [(some name, content)] => some (name, some content)
  | _ => none

/-- A variant without content. -/
def unit? {α : Type} (named : String → Option α) (j : Json) : Option α := do
  match ← j.variant? with
  | (name, none) => named name
  | (name, some .null) => named name
  | _ => none

end AudioLibrary.Json
