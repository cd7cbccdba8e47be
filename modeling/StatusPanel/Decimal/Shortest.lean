import StatusPanel.Floating.Basic

/-!
# Shortest decimals

The text of a floating-point number has the fewest digits that read back as the same number and,
among those, the digits nearest to it. How the digits are laid out is a `Layout`.
-/

namespace StatusPanel.Decimal

/-- A positive decimal `0.d₁d₂… * 10 ^ point`. -/
structure Digits where
  digits : List Nat
  point : Int
  deriving Repr, DecidableEq

/-- The numbers that round to a given one, between two bounds counted in half units; the bounds
themselves do when the significand is even. -/
structure Interval where
  low : Nat
  high : Nat
  closed : Bool

/-- The numbers that round to `units`. -/
def interval (f : Format) (units : Nat) : Interval :=
  let spacing := f.spacing units
  let above := 1 <<< spacing
  let below := if spacing ≠ 0 ∧ units = 1 <<< units.log2 then 1 <<< (spacing - 1) else above
  { low := 2 * units - below
    high := 2 * units + above
    closed := (units >>> spacing) % 2 == 0 }

/-- Is `num / den` half units inside? -/
def Interval.contains (i : Interval) (num den : Nat) : Bool :=
  if i.closed then
    i.low * den ≤ num && num ≤ i.high * den
  else
    i.low * den < num && num < i.high * den

/-- A ratio of whole numbers as `10 ^ k` with an integer `k`: numerator and denominator. -/
def powTen (k : Int) : Nat × Nat :=
  if k < 0 then (1, Nat.pow 10 (-k).toNat) else (Nat.pow 10 k.toNat, 1)

/-- The least `k` at or above `start`, at most `fuel` steps up, with the value below `10 ^ k`. -/
def pointFrom (f : Format) (units : Nat) : Nat → Int → Int
  | 0, k => k
  | fuel + 1, k =>
    let (num, den) := powTen k
    if units * den < num <<< f.scale then k else pointFrom f units fuel (k + 1)

/-- The decimal point's place: the value lies in `[10 ^ (k - 1), 10 ^ k)`. -/
def point (f : Format) (units : Nat) : Int :=
  let exponent : Int := units.log2 - f.scale
  -- 30103 / 100000 is just above log10 2
  pointFrom f units 4 (exponent * 30103 / 100000 - 1)

/-- The two neighbours of the value among the decimals with `count` digits, those of them that
read back, the nearer one first. -/
def candidate (f : Format) (units : Nat) (point : Int) (count : Nat) : Option Nat :=
  let i := interval f units
  -- a grid step is `num / den`, a half unit `1 / 2 ^ (scale + 1)`
  let (num, den) := powTen (point - count)
  let step := num <<< (f.scale + 1)
  let value := 2 * units * den
  let lower := value / step
  let upper := lower + 1
  let fits (n : Nat) := i.contains (n * step) den
  let below := value - lower * step
  let above := upper * step - value
  match fits lower, fits upper with
  | true, true =>
    some (if below < above || (below == above && lower % 2 == 0) then lower else upper)
  | true, false => some lower
  | false, true => some upper
  | false, false => none

/-- The first digit count from `count` up, at most `fuel` steps, with a decimal that reads back. -/
def search (f : Format) (units : Nat) (point : Int) : Nat → Nat → Nat × Nat
  | 0, count => (0, count)
  | fuel + 1, count =>
    match candidate f units point count with
    | some n => (n, count)
    | none => search f units point fuel (count + 1)

/-- The decimal digits of a whole number, the leading one first. -/
def digitsOf (n : Nat) : List Nat :=
  (Nat.toDigits 10 n).map fun c => c.toNat - '0'.toNat

/-- The shortest decimal of a positive magnitude. Seventeen digits always suffice for the formats
in use. -/
def shortest (f : Format) (units : Nat) : Digits :=
  let k := point f units
  let (n, count) := search f units k 18 1
  let digits := digitsOf n
  -- a neighbour may have rounded up to the next power of ten
  let point := k + (digits.length : Int) - count
  { digits := (digits.reverse.dropWhile (· == 0)).reverse
    point := point }

/-- How digits are laid out: where positional notation ends, and whether a whole number shows a
fraction. -/
structure Layout where
  positional : Int → Bool
  keepFraction : Bool
  nan : String
  infinity : String

/-- Digits as text. -/
def digitText (digits : List Nat) : String :=
  String.ofList (digits.map Nat.digitChar)

/-- Zeros as text. -/
def zeros (count : Nat) : String :=
  String.ofList (List.replicate count '0')

/-- Digits in positional notation. -/
def Digits.positional (d : Digits) (keepFraction : Bool) : String :=
  let count : Int := d.digits.length
  if d.point ≤ 0 then
    "0." ++ zeros (-d.point).toNat ++ digitText d.digits
  else if count ≤ d.point then
    digitText d.digits ++ zeros (d.point - count).toNat ++ if keepFraction then ".0" else ""
  else
    digitText (d.digits.take d.point.toNat) ++ "." ++ digitText (d.digits.drop d.point.toNat)

/-- Digits with an exponent: one digit before the point. -/
def Digits.scientific (d : Digits) : String :=
  let tail := d.digits.drop 1
  digitText (d.digits.take 1) ++ (if tail.isEmpty then "" else "." ++ digitText tail)
    ++ "e" ++ toString (d.point - 1)

/-- The text of a number. -/
def text (layout : Layout) {f : Format} : Floating f → String
  | .nan => layout.nan
  | .infinite s => sign s ++ layout.infinity
  | .finite s n _ =>
    if n = 0 then
      sign s ++ if layout.keepFraction then "0.0" else "0"
    else
      let d := shortest f n
      sign s ++ if layout.positional d.point then d.positional layout.keepFraction else d.scientific
where
  sign (negative : Bool) : String := if negative then "-" else ""

end StatusPanel.Decimal
