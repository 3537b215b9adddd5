import AudioLibrary.Number.Extended

/-!
# Decimal texts of doubles

`shortest?` finds the fewest decimal digits that read back as the number, and of those the nearest;
`positional` writes them without an exponent.  `fifteenDigits` rounds to fifteen significant
digits and switches to an exponent for very small and very large numbers.
-/

namespace AudioLibrary.Number

/-- The number `digits * 10 ^ exponent`. -/
structure Decimal where
  digits : Nat
  exponent : Int
deriving DecidableEq, Repr

/-- The same number, one digit long if its digits are those of a power of ten. -/
def Decimal.reduce (d : Decimal) (count : Nat) : Decimal :=
  if d.digits = 10 ^ count then ⟨1, d.exponent + count⟩ else d

namespace Double

/-- Whether `digits * 10 ^ exponent` rounds to the magnitude of the finite nonzero number `x`. -/
def roundsTo (x : Double) (d : Decimal) : Bool :=
  let (n, m) := scale 10 d.exponent d.digits 1
  (ofRatio false n m).magnitude == x.magnitude

/-- Of the two decimals with `count` digits around `num / den` the nearer that reads back as `x`; of
two that are equally near, the greater. -/
def nearestDecimal? (x : Double) (num den : Nat) (top : Int) (count : Nat) : Option Decimal :=
  let exponent : Int := top - count + 1
  let (n, d) := scale 10 (-exponent) num den
  let near := roundHalfUp n d
  let far := if near * d ≤ n then near + 1 else near - 1
  [near, far].findSome? fun digits =>
    if x.roundsTo ⟨digits, exponent⟩ then some (Decimal.reduce ⟨digits, exponent⟩ count) else none

/-- The fewest digits that read back as the finite nonzero number `x`. -/
def shortest? (x : Double) : Option Decimal :=
  let (num, den) := x.ratio
  let top := decimalExponent num den
  (List.range 17).findSome? fun i => x.nearestDecimal? num den top (i + 1)

end Double

/-- Digits with a decimal point, without an exponent. -/
def Decimal.positional (d : Decimal) : List Char :=
  let text := Nat.toDigits 10 d.digits
  if 0 ≤ d.exponent then text ++ List.replicate d.exponent.toNat '0'
  else
    let places := (-d.exponent).toNat
    let padded := List.replicate (places + 1 - text.length) '0' ++ text
    padded.take (padded.length - places) ++ '.' :: padded.drop (padded.length - places)

namespace Double

/-- The plain text of a number: its shortest digits, no exponent, `NaN`, `inf` and `-inf`. -/
def plain (x : Double) : String :=
  if x.isNaN then "NaN"
  else
    let sign := if x.isNegative then "-" else ""
    if x.isInfinite then sign ++ "inf"
    else if x.isZero then sign ++ "0"
    else
      match x.shortest? with
      | some d => sign ++ String.ofList d.positional
      | none => sign

/-- The power of ten of the first digit, and fifteen significant digits, a half rounded up. -/
def significant15 (x : Double) : Int × Nat :=
  let (scaled, power) := Extended.decimalDigits x
  let count := digitCount scaled
  let digits := roundHalfUp scaled (10 ^ (count - 15))
  let top := count + power - 1
  -- rounding up may give one digit more, and the last is a zero then
  if digits < 10 ^ 15 then (top, digits) else (top + 1, digits / 10)

/-- Digits after the point without the zeros at the end; at least one digit stays. -/
def trimZeros (fraction : List Char) : List Char :=
  match (fraction.reverse.dropWhile (· == '0')).reverse with
  | [] => ['0']
  | kept => kept

/-- The text that the store gives a number in a text column: fifteen significant digits, always
with a point, and an exponent of at least two digits below `10 ^ -4` and from `10 ^ 15` on. -/
def fifteenDigits (x : Double) : String :=
  if x.isNaN then "NaN"
  else if x.isInfinite then if x.isNegative then "-Inf" else "Inf"
  else if x.isZero then "0.0"
  else
    let (top, digits) := x.significant15
    let text := Nat.toDigits 10 digits
    let sign := if x.isNegative then ['-'] else []
    let body :=
      if top < -4 ∨ 14 < top then
        let size := Nat.toDigits 10 top.natAbs
        text.take 1 ++ '.' :: trimZeros (text.drop 1) ++
          ['e', if top < 0 then '-' else '+'] ++ List.replicate (2 - size.length) '0' ++ size
      else if top < 0 then
        '0' :: '.' :: trimZeros (List.replicate ((-top).toNat - 1) '0' ++ text)
      else text.take (top.toNat + 1) ++ '.' :: trimZeros (text.drop (top.toNat + 1))
    String.ofList (sign ++ body)

end Double

end AudioLibrary.Number
