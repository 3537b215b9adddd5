import AudioLibrary.Number.Rounding

/-!
# Binary floating point numbers

A `Double` is the 64 bits of a binary floating point number: a sign, an exponent field and a
fraction.  Every operation here is exact arithmetic on naturals; the only rounding is in `ofRatio`,
which takes a quotient to the nearest double, a tie to the even one.
-/

namespace AudioLibrary.Number

/-- A floating point number, by its bits. -/
structure Double where
  bits : UInt64
deriving DecidableEq, Inhabited, Repr

namespace Double

/-- Whether the sign bit is set. -/
def isNegative (x : Double) : Bool := x.bits.toNat / 2 ^ 63 == 1

/-- All bits but the sign. -/
def magnitude (x : Double) : Nat := x.bits.toNat % 2 ^ 63

/-- The magnitude bits of infinity, the first that no finite number has. -/
def infiniteMagnitude : Nat := 2047 * 2 ^ 52

def isNaN (x : Double) : Bool := infiniteMagnitude < x.magnitude

def isInfinite (x : Double) : Bool := x.magnitude == infiniteMagnitude

def isFinite (x : Double) : Bool := x.magnitude < infiniteMagnitude

def isZero (x : Double) : Bool := x.magnitude == 0

/-- The double with the given sign and magnitude bits. -/
def ofMagnitude (negative : Bool) (magnitude : Nat) : Double :=
  ⟨(magnitude + if negative then 2 ^ 63 else 0).toUInt64⟩

def zero : Double := ⟨0⟩

/-- The exponent of the unit in which a finite magnitude is counted. -/
def unitExponent (x : Double) : Int :=
  let field : Nat := x.magnitude / 2 ^ 52
  if field = 0 then -1074 else (field : Int) - 1075

/-- How many units a finite magnitude counts. -/
def significand (x : Double) : Nat :=
  let field : Nat := x.magnitude / 2 ^ 52
  x.magnitude % 2 ^ 52 + if field = 0 then 0 else 2 ^ 52

/-- The absolute value of a finite number as a quotient. -/
def ratio (x : Double) : Nat × Nat := scale 2 x.unitExponent x.significand 1

/-- The double nearest to `num / den`; beyond the greatest finite one, infinity. -/
def ofRatio (negative : Bool) (num den : Nat) : Double :=
  if num = 0 then ofMagnitude negative 0
  else
    let unit : Int := max (binaryExponent num den - 52) (-1074)
    let (n, d) := scale 2 (-unit) num den
    -- the leading bit of a normal significand counts as one in the exponent field
    let magnitude := (unit + 1074).toNat * 2 ^ 52 + roundHalfEven n d
    ofMagnitude negative (min magnitude infiniteMagnitude)

/-- The double nearest to an integer. -/
def ofInt (i : Int) : Double := ofRatio (decide (i < 0)) i.natAbs 1

/-- The opposite number. -/
def neg (x : Double) : Double := ofMagnitude (!x.isNegative) x.magnitude

/-- A finite number as a quotient with a signed numerator. -/
def toRatio (x : Double) : Int × Nat :=
  let (n, d) := x.ratio
  (if x.isNegative then -(n : Int) else n, d)

/-- The order of numbers by value; zero has one value.  Not a number compares with nothing. -/
def compare? (x y : Double) : Option Ordering :=
  if x.isNaN || y.isNaN then none
  else
    let key (z : Double) : Int := if z.isNegative then -(z.magnitude : Int) else z.magnitude
    some (compare (key x) (key y))

/-- The order of a number and an integer by value. -/
def compareInt? (x : Double) (i : Int) : Option Ordering :=
  if x.isNaN then none
  else if x.isInfinite then some (if x.isNegative then .lt else .gt)
  else
    let (n, d) := x.toRatio
    some (compare n (i * d))

/-- The integer that a number is, if it is one. -/
def toInt? (x : Double) : Option Int :=
  if x.isFinite then
    let (n, d) := x.toRatio
    if n.natAbs % d = 0 then some (n / d) else none
  else none

/-- Whether the number is equal to itself. -/
def equalsItself (x : Double) : Bool := !x.isNaN

end Double

end AudioLibrary.Number
