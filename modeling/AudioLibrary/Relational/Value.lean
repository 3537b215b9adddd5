import AudioLibrary.Json.Printer
import AudioLibrary.Json.Reader
import AudioLibrary.Number.Shortest
import AudioLibrary.Text.Collation
import AudioLibrary.Text.Utf8

/-!
# Stored values

A value is nothing, an integer, a floating point number, a text or a string of bytes.  Values of
different kinds are ordered by kind: nothing, numbers, texts, bytes.  Integers and floating point
numbers are compared by value.
-/

namespace AudioLibrary

open AudioLibrary.Number

inductive Value where
  | null
  | integer (i : Int64)
  | real (x : Double)
  | text (s : String)
  | blob (bytes : List UInt8)
deriving DecidableEq, Repr, Inhabited

/-- A row of named values. -/
abbrev Row := List (String × Value)

namespace Value

/-! ## Views -/

def integer? : Value → Option Int64
  | integer i => some i
  | _ => none

/-- A number as a floating point number. -/
def real? : Value → Option Double
  | real x => some x
  | integer i => some (.ofInt i.toInt)
  | _ => none

/-- An integer as a truth value: anything but zero is true. -/
def bool? (v : Value) : Option Bool := v.integer?.map (· ≠ 0)

def text? : Value → Option String
  | text s => some s
  | _ => none

def isNull : Value → Bool
  | null => true
  | _ => false

/-- Whether comparing the value with itself finds it equal. -/
def equalsItself : Value → Bool
  | real x => x.equalsItself
  | _ => true

def ofOption {α : Type} (f : α → Value) : Option α → Value
  | none => null
  | some a => f a

/-! ## The written form -/

/-- The JSON form: a variant with its content.  Floating point numbers have none here, since their
digits are a matter of the writer. -/
def toJson? : Value → Option Json
  | null => some (.ofString "Null")
  | integer i => some (.record [("Integer", .ofInt64 i)])
  | real _ => none
  | text s => some (.record [("Text", .ofString s)])
  | blob bytes => some (.record [("Blob", .array (bytes.map fun b => .ofInt b.toNat))])

def ofJson? (j : Json) : Option Value := do
  match ← j.variant? with
  | ("Null", none) => some null
  | ("Null", some .null) => some null
  | ("Integer", some content) => content.int64?.map integer
  | ("Real", some content) => content.double?.map real
  | ("Text", some content) => content.string?.map text
  | ("Blob", some content) => (content.list? Json.byte?).map blob
  | _ => none

/-! ## Order -/

/-- How texts are compared. -/
inductive Collation where
  /-- By code points. -/
  | binary
  /-- By code points after folding ASCII capitals. -/
  | noCase
deriving DecidableEq, Repr

def Collation.compare : Collation → String → String → Ordering
  | .binary, s, t => Ord.compare s t
  | .noCase, s, t => Text.compareIgnoringCase s.toList t.toList

/-- The position of a value's kind in the order. -/
def kindRank : Value → Nat
  | null => 0
  | integer _ => 1
  | real _ => 1
  | text _ => 2
  | blob _ => 3

/-- The order of values; texts by the collation.  Not a number equals every number, and is never
stored. -/
def compareBy (c : Collation) : Value → Value → Ordering
  | integer i, integer j => compare i j
  | integer i, real y => ((y.compareInt? i.toInt).map Ordering.swap).getD .eq
  | real x, integer j => (x.compareInt? j.toInt).getD .eq
  | real x, real y => (x.compare? y).getD .eq
  | text s, text t => c.compare s t
  | blob a, blob b => compare a b
  | v, w => compare v.kindRank w.kindRank

/-- Whether two values are the same to a statement, nothing being like nothing. -/
def same (v w : Value) : Bool := compareBy .binary v w == .eq

/-! ## Texts of values -/

/-- The text of a value that is neither nothing nor bytes. -/
def chars? : Value → Option (List Char)
  | integer i => some (toString i.toInt).toList
  | real x => some x.fifteenDigits.toList
  | text s => some s.toList
  | null | blob _ => none

/-- The bytes of a value's text; nothing has none. -/
def bytes? : Value → Option (List UInt8)
  | blob bytes => some bytes
  | v => v.chars?.map fun cs => (String.ofList cs).toUTF8.toList

/-- Bytes as a value: a text where they are one. -/
def ofBytes (bytes : List UInt8) : Value :=
  match Text.Utf8.strict (bytes.map UInt8.toNat) with
  | .ok s => text s
  | .error _ => blob bytes

end Value

namespace Row

/-- The value of a column, if the row has it. -/
def get? (row : Row) (column : String) : Option Value := row.lookup column

/-- The value of a column; nothing if the row lacks it. -/
def value (row : Row) (column : String) : Value := (row.get? column).getD .null

end Row

end AudioLibrary
