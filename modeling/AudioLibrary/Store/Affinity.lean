import AudioLibrary.Number.Extended
import AudioLibrary.Relational.Value

/-!
# Kinds of columns

A column prefers one kind of value and converts what it is given if nothing is lost: numbers become
texts in a text column, texts that spell numbers become numbers in a number column, and whole
floating point numbers become integers in an integer column.  What cannot be converted is stored as
it is.
-/

namespace AudioLibrary

open AudioLibrary.Number

/-! ## Texts that spell numbers -/

namespace NumericText

/-- Blanks around a number. -/
def isBlank (c : Char) : Bool := c = ' ' || ('\t' ≤ c && c ≤ '\r')

/-- The digits at the start of a text, and what follows them. -/
def digits (cs : List Char) : List Nat × List Char :=
  ((cs.takeWhile Char.isDigit).map fun c => c.toNat - '0'.toNat, cs.dropWhile Char.isDigit)

/-- Whether a minus stands before a number, and what follows the sign. -/
def sign : List Char → Bool × List Char
  | '-' :: cs => (true, cs)
  | '+' :: cs => (false, cs)
  | cs => (false, cs)

/-- The digits after a point; none if there is no point. -/
def fraction : List Char → Option (List Nat) × List Char
  | '.' :: cs => (some (digits cs).1, (digits cs).2)
  | cs => (none, cs)

/-- The exponent at the start of a text; none if there is none. -/
def exponent : List Char → Option (Bool × List Nat) × List Char
  | [] => (none, [])
  | c :: cs =>
      if c = 'e' ∨ c = 'E' then
        let (negative, cs) := sign cs
        (some (negative, (digits cs).1), (digits cs).2)
      else (none, c :: cs)

/-- The number of a run of decimal digits. -/
def ofDigits (ds : List Nat) : Nat := ds.foldl (fun n d => 10 * n + d) 0

/-- Digits are added to a significand while it is below this bound. -/
def significandRoom : Nat := (2 ^ 64 - 1 - 9) / 10

/-- The number that the digits before a point start with, and how many digits are left out.  The
digit that reaches the bound is the last that counts. -/
def wholePart (s : Nat) : List Nat → Nat × Nat
  | [] => (s, 0)
  | d :: ds =>
      let s := 10 * s + d
      if s < significandRoom then wholePart s ds else (s, ds.length)

/-- A number with digits after a point added while there is room, and how many were added. -/
def addFraction (s : Nat) : List Nat → Nat × Nat
  | [] => (s, 0)
  | d :: ds =>
      if s < significandRoom then
        let (s, n) := addFraction (10 * s + d) ds
        (s, n + 1)
      else (s, 0)

/-- The size of an exponent.  Digits no longer count once it has reached ten thousand. -/
def exponentSize (ds : List Nat) : Nat :=
  ds.foldl (fun n d => if n < 10000 then 10 * n + d else 10000) 0

/-- The value that a text spells: an integer if it is written as one and is a word. -/
def read? (text : String) : Option Value :=
  let cs := text.toList.dropWhile isBlank
  let (negative, cs) := sign cs
  let (whole, cs) := digits cs
  let (part, cs) := fraction cs
  let (power, cs) := exponent cs
  if (whole ++ part.getD []).isEmpty || (power.any fun p => p.2.isEmpty) ||
      !(cs.dropWhile isBlank).isEmpty then none
  else
    let magnitude := ofDigits whole
    let integer : Int := if negative then -(magnitude : Int) else magnitude
    let isWord := Int64.minValue.toInt ≤ integer && integer ≤ Int64.maxValue.toInt
    if part.isNone && power.isNone && isWord then some (.integer (.ofInt integer))
    else
      let (s, skipped) := wholePart 0 whole
      let (s, added) := addFraction s (part.getD [])
      let size := exponentSize ((power.map Prod.snd).getD [])
      let signed : Int := if power.any Prod.fst then -(size : Int) else size
      some (.real (Extended.ofDecimal negative s (signed + skipped - added)))

end NumericText

/-! ## Conversion -/

/-- What a column prefers. -/
inductive Affinity where
  | text
  | integer
  | real
deriving DecidableEq, Repr

namespace Affinity

/-- A whole number strictly between the least and the greatest integer becomes an integer. -/
def wholeToInteger : Value → Value
  | .real x =>
      match x.toInt? with
      | some i =>
          if Int64.minValue.toInt < i ∧ i < Int64.maxValue.toInt then .integer (.ofInt i)
          else .real x
      | none => .real x
  | v => v

/-- A number in place of a text that spells one. -/
def textToNumber : Value → Value
  | .text s => (NumericText.read? s).getD (.text s)
  | v => v

/-- A number as a text. -/
def numberToText : Value → Value
  | .integer i => .text (toString i.toInt)
  | .real x => .text x.fifteenDigits
  | v => v

/-- The value that a column stores. -/
def store : Affinity → Value → Value
  | text, v => numberToText v
  | integer, v => wholeToInteger (textToNumber v)
  -- a whole number is kept as an integer and read as a real one, which loses the sign of zero
  | real, v =>
      match wholeToInteger (textToNumber v) with
      | .integer i => .real (.ofInt i.toInt)
      | w => w

end Affinity

/-- A value on its way into a statement; what is not a number is nothing. -/
def Value.bound : Value → Value
  | .real x => if x.isNaN then .null else .real x
  | v => v

end AudioLibrary
