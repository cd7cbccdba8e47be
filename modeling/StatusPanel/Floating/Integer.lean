import StatusPanel.Floating.Order

/-!
# Floating-point numbers and integers

Rounding to a whole number keeps the sign of what it rounds, so a small negative number goes up to
negative zero. Conversion to an integer range drops the fraction and stops at the range's ends.
-/

namespace StatusPanel.Floating

variable {f : Format}

/-- The integer part of `units`, toward negative infinity. -/
def floorUnits (f : Format) (units : Int) : Int :=
  units >>> f.scale

/-- Rounds a finite number by `toWhole`, which takes a signed count of units to an integer. -/
def roundBy (toWhole : Int → Int) : Floating f → Floating f
  | .nan => .nan
  | .infinite s => .infinite s
  | .finite s n _ => ofRatio s ((toWhole (signed s n)).natAbs <<< f.scale) 1

/-- The greatest whole number at or below `x`. -/
def floor : Floating f → Floating f :=
  roundBy (floorUnits f)

/-- The least whole number at or above `x`. -/
def ceil : Floating f → Floating f :=
  roundBy fun units => -floorUnits f (-units)

/-- `x` without its fraction. -/
def trunc : Floating f → Floating f :=
  roundBy fun units => if units < 0 then -floorUnits f (-units) else floorUnits f units

/-- The nearest whole number, a half going away from zero. -/
def round : Floating f → Floating f :=
  roundBy fun units =>
    let half := (1 <<< (f.scale - 1) : Nat)
    if units < 0 then -floorUnits f (half - units) else floorUnits f (units + half)

/-- What `trunc` drops. -/
def fract (x : Floating f) : Floating f :=
  x - x.trunc

/-- The integer in `[low, high]` nearest to `x` without its fraction; NaN is zero. -/
def toRange (low high : Int) : Floating f → Int
  | .nan => 0
  | .infinite s => if s then low else high
  | .finite s n _ =>
    let whole : Int := n >>> f.scale
    max low (min high (if s then -whole else whole))

/-- The signed 64-bit integer of `x`. -/
def toInt64 (x : Floating f) : Int :=
  x.toRange (-0x8000000000000000) 0x7FFFFFFFFFFFFFFF

/-- The signed 32-bit integer of `x`. -/
def toInt32 (x : Floating f) : Int :=
  x.toRange (-0x80000000) 0x7FFFFFFF

/-- The unsigned 64-bit integer of `x`. -/
def toNat64 (x : Floating f) : Nat :=
  (x.toRange 0 0xFFFFFFFFFFFFFFFF).toNat

end StatusPanel.Floating
