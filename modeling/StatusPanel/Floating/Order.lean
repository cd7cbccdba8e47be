import StatusPanel.Floating.Basic

/-!
# Comparing floating-point numbers

Every comparison with NaN is false, and the two zeros are equal. `least` and `greatest` pass over
NaN.
-/

namespace StatusPanel.Floating

variable {f : Format}

/-- Is `x` below `y`? -/
def less : Floating f → Floating f → Bool
  | .nan, _ => false
  | _, .nan => false
  | .infinite s, .infinite t => s && !t
  | .infinite s, .finite .. => s
  | .finite .., .infinite t => !t
  | .finite s m _, .finite t n _ => signed s m < signed t n

/-- Is `x` at most `y`? -/
def lessEq : Floating f → Floating f → Bool
  | .nan, _ => false
  | _, .nan => false
  | .infinite s, .infinite t => s || !t
  | .infinite s, .finite .. => s
  | .finite .., .infinite t => !t
  | .finite s m _, .finite t n _ => signed s m ≤ signed t n

/-- Do `x` and `y` have one value? -/
def equal (x y : Floating f) : Bool :=
  x.lessEq y && y.lessEq x

/-- Is `x` above zero? -/
def isPositive (x : Floating f) : Bool :=
  less 0 x

/-- The lesser number; a NaN gives way to the other one. -/
def least (x y : Floating f) : Floating f :=
  if x.isNan then y else if y.less x then y else x

/-- The greater number; a NaN gives way to the other one. -/
def greatest (x y : Floating f) : Floating f :=
  if x.isNan then y else if x.less y then y else x

/-- The number of `[low, high]` nearest to `x`; NaN stays. -/
def clamp (x low high : Floating f) : Floating f :=
  if x.less low then low else if high.less x then high else x

end StatusPanel.Floating
