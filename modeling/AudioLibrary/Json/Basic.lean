/-!
# JSON documents

A document is a tree that keeps what the reader of a typed value needs: members in their order,
repeated names included, and numbers by their digits.  A text that spells half of a surrogate pair
stands for no string; it is kept as a text without content, so that it may stand where nobody
reads it.
-/

namespace AudioLibrary

/-- A number as written: digits from the first to the last, and what follows them. -/
structure Numeral where
  negative : Bool
  whole : List Nat
  fraction : List Nat := []
  /-- The sign of the exponent (`true` for minus) and its digits, if one is written. -/
  exponent : Option (Bool × List Nat) := none
deriving DecidableEq, Repr

inductive Json where
  | null
  | bool (b : Bool)
  | number (n : Numeral)
  | text (s : Option String)
  | array (items : List Json)
  | object (members : List (Option String × Json))
deriving Repr, Inhabited

namespace Numeral

/-- The value of a run of decimal digits. -/
def ofDigits (ds : List Nat) : Nat := ds.foldl (fun n d => 10 * n + d) 0

/-- The decimal digits of a natural. -/
def digits (n : Nat) : List Nat := (Nat.toDigits 10 n).map fun c => c.toNat - '0'.toNat

/-- The usual numeral of an integer. -/
def ofInt (i : Int) : Numeral := { negative := decide (i < 0), whole := digits i.natAbs }

/-- Whether no fraction and no exponent is written. -/
def isPlain (n : Numeral) : Bool := n.fraction.isEmpty && n.exponent.isNone

/-- The integer that a plain numeral spells; a negative zero spells none. -/
def toInt? (n : Numeral) : Option Int :=
  let value := ofDigits n.whole
  if !n.isPlain || (n.negative && value == 0) then none
  else some (if n.negative then -(value : Int) else value)

end Numeral

namespace Json

def ofString (s : String) : Json := .text (some s)

def ofInt (i : Int) : Json := .number (.ofInt i)

def ofInt64 (i : Int64) : Json := ofInt i.toInt

/-- The value of an optional field. -/
def ofOption {α : Type} (encode : α → Json) : Option α → Json
  | none => .null
  | some a => encode a

/-- An object from names and values. -/
def record (members : List (String × Json)) : Json :=
  .object (members.map fun m => (some m.1, m.2))

end Json

end AudioLibrary
