import AudioLibrary.Json.Basic
import AudioLibrary.Number.Double

/-!
# The floating point number of a numeral

A numeral is read the quick way: the leading digits that fit 64 bits are taken as one integer, and
that integer is scaled by a rounded power of ten.  The result is the nearest double when both the
integer and the power are exact, and may be its neighbour otherwise.
-/

namespace AudioLibrary.Numeral

open AudioLibrary.Number

/-- Appends digits to a number as long as it fits 64 bits; gives the digits left over. -/
def accumulate (n : Nat) : List Nat → Nat × List Nat
  | [] => (n, [])
  | d :: ds => if 10 * n + d < 2 ^ 64 then accumulate (10 * n + d) ds else (n, d :: ds)

/-- A power of ten up to `10 ^ 308`, rounded. -/
def powerOfTen (e : Nat) : Double := .ofRatio false (10 ^ e) 1

def times (x y : Double) : Double :=
  .ofRatio false (x.ratio.1 * y.ratio.1) (x.ratio.2 * y.ratio.2)

def dividedBy (x y : Double) : Double :=
  .ofRatio false (x.ratio.1 * y.ratio.2) (x.ratio.2 * y.ratio.1)

/-- `x * 10 ^ e` with one rounding for each step of at most 308 powers; nothing beyond the finite
numbers.  Four steps take every 64-bit number to zero. -/
def scaleByTen? : Nat → Double → Int → Option Double
  | 0, _, _ => some .zero
  | steps + 1, x, e =>
      if e.natAbs ≤ 308 then
        if 0 ≤ e then
          let y := times x (powerOfTen e.natAbs)
          if y.isInfinite then none else some y
        else some (dividedBy x (powerOfTen e.natAbs))
      else if x.isZero then some x
      else if 0 ≤ e then none
      else scaleByTen? steps (dividedBy x (powerOfTen 308)) (e + 308)

/-- The number that a numeral spells; nothing when it is too great. -/
def toDouble? (n : Numeral) : Option Double := do
  let (lead, dropped) := accumulate 0 n.whole
  -- digits of the fraction may still fit where one before the point did not
  let (lead, unread) := accumulate lead n.fraction
  let point : Int := dropped.length - (n.fraction.length - unread.length : Nat)
  let magnitude ←
    match n.exponent with
    | none => scaleByTen? 4 (.ofInt lead) point
    | some (minus, ds) =>
        let e := Numeral.ofDigits ds
        if e < 2 ^ 31 then
          scaleByTen? 4 (.ofInt lead) (if minus then point - e else point + e)
        else if lead = 0 ∨ minus then some .zero
        else none
  return if n.negative then magnitude.neg else magnitude

end AudioLibrary.Numeral
