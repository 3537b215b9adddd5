import AudioLibrary.Number.Double

/-!
# Numbers with sixty-four significant bits

The store scales numbers by powers of ten in a format with more bits than a double: a significand
of sixty-four bits and an exponent without bounds.  Constants and products are rounded to the
nearest such number, a tie to the even one, so scaling in several steps rounds several times.

`decimalDigits` takes a double to a natural of eighteen or nineteen digits, `ofDecimal` takes
decimal digits to a double.
-/

namespace AudioLibrary.Number

/-- The number `significand * 2 ^ exponent`. -/
structure Extended where
  significand : Nat
  exponent : Int
deriving DecidableEq, Repr

namespace Extended

/-- How many bits a significand may have. -/
def precision : Nat := 64

/-- The number as a quotient. -/
def ratio (x : Extended) : Nat × Nat := scale 2 x.exponent x.significand 1

/-- The number nearest to `num / den`. -/
def ofRatio (num den : Nat) : Extended :=
  if num = 0 then ⟨0, 0⟩
  else
    let unit : Int := binaryExponent num den - (precision - 1)
    let (n, d) := scale 2 (-unit) num den
    ⟨roundHalfEven n d, unit⟩

/-- The number nearest to `s * 2 ^ e`. -/
def round (s : Nat) (e : Int) : Extended :=
  let extra := s.log2 + 1 - precision
  ⟨roundHalfEven s (2 ^ extra), e + extra⟩

/-- The number nearest to a product. -/
def mul (x y : Extended) : Extended :=
  round (x.significand * y.significand) (x.exponent + y.exponent)

/-- The number nearest to a power of ten. -/
def powerOfTen (e : Int) : Extended :=
  let (n, d) := scale 10 e 1 1
  ofRatio n d

/-- Whether the number is less than another. -/
def less (x y : Extended) : Bool :=
  let (n, d) := x.ratio
  let (n', d') := y.ratio
  n * d' < n' * d

/-- The natural below a number. -/
def floor (x : Extended) : Nat :=
  let (n, d) := x.ratio
  n / d

/-- A finite magnitude, which always fits. -/
def ofMagnitude (x : Double) : Extended := ⟨x.significand, x.unitExponent⟩

/-- The greatest finite double. -/
def greatest : Extended := ⟨2 ^ 53 - 1, 971⟩

/-- The double nearest to the number; infinity as soon as the number is beyond the greatest. -/
def toDouble (negative : Bool) (x : Extended) : Double :=
  if greatest.less x then .ofMagnitude negative Double.infiniteMagnitude
  else
    let (n, d) := x.ratio
    .ofRatio negative n d

/-! ## Decimal digits of a number -/

/-- A number together with the power of ten by which it has been divided. -/
structure Scaled where
  number : Extended
  power : Int

/-- Multiplies by `10 ^ e` while the condition holds, at most `fuel` times. -/
def Scaled.shiftWhile (condition : Extended → Bool) (e : Int) : Nat → Scaled → Scaled
  | 0, s => s
  | fuel + 1, s =>
      if condition s.number then
        shiftWhile condition e fuel ⟨s.number.mul (powerOfTen e), s.power - e⟩
      else s

/-- No step is taken more often for any double. -/
def stepLimit : Nat := 16

/-- Brings a number below `10 ^ 19`, in steps of a hundred, ten and one. -/
def Scaled.lower (s : Scaled) : Scaled :=
  [(-100, 119), (-10, 29), (-1, 19)].foldl (fun s (stride, bound) =>
    s.shiftWhile (fun x => !x.less (powerOfTen bound)) stride stepLimit) s

/-- Brings a number to `10 ^ 17` or above, in steps of a hundred, ten and one. -/
def Scaled.raise (s : Scaled) : Scaled :=
  [(100, -97), (10, 7), (1, 17)].foldl (fun s (stride, bound) =>
    s.shiftWhile (fun x => x.less (powerOfTen bound)) stride stepLimit) s

/-- A natural of eighteen or nineteen digits and a power of ten whose product is about the magnitude
of a finite nonzero number. -/
def decimalDigits (x : Double) : Nat × Int :=
  let start : Scaled := ⟨ofMagnitude x, 0⟩
  let scaled := if start.number.less (powerOfTen 19) then start.raise else start.lower
  (scaled.number.floor, scaled.power)

/-! ## The number of decimal digits -/

/-- Multiplies by a power of ten, in steps of a hundred, ten and one. -/
def timesPower (x : Extended) (e : Int) : Extended :=
  let stepped (x : Extended) (count : Nat) (stride : Int) : Extended :=
    count.repeat (fun x => x.mul (powerOfTen stride)) x
  let sign : Int := if e < 0 then -1 else 1
  let n := e.natAbs
  stepped (stepped (stepped x (n / 100) (100 * sign)) (n % 100 / 10) (10 * sign)) (n % 10) sign

/-- Moves powers of ten from an exponent above zero into a significand while there is room. -/
def spread (room : Nat) : Nat → Nat → Nat × Nat
  | s, 0 => (s, 0)
  | s, e + 1 => if s < room then spread room (s * 10) e else (s, e + 1)

/-- Cancels zeros at the end of a significand against an exponent below zero. -/
def cancel : Nat → Nat → Nat × Nat
  | s, 0 => (s, 0)
  | s, e + 1 => if s % 10 = 0 then cancel (s / 10) e else (s, e + 1)

/-- A decimal with the same value and an exponent nearer to zero. -/
def balance (s : Nat) (e : Int) : Nat × Int :=
  if 0 ≤ e then
    let (s, e) := spread ((2 ^ 64 - 1) / 10) s e.toNat
    (s, e)
  else
    let (s, e) := cancel s e.natAbs
    (s, -(e : Int))

/-- The double for `s * 10 ^ e`, where `s` is below `2 ^ 64`. -/
def ofDecimal (negative : Bool) (s : Nat) (e : Int) : Double :=
  if s = 0 then .ofMagnitude negative 0
  else
    let (s, e) := balance s e
    toDouble negative (timesPower ⟨s, 0⟩ e)

end Extended

end AudioLibrary.Number
