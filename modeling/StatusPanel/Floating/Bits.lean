import StatusPanel.Floating.Basic

/-!
# The interchange encoding of floating-point numbers

A sign bit, a biased exponent and a fraction. With magnitudes counted in units, the exponent of a
number with a full significand is one more than its spacing, and smaller magnitudes stand for
themselves.
-/

namespace StatusPanel.Floating

variable {f : Format}

/-- The exponent field of infinities and NaN. -/
def topExponent (f : Format) : Nat :=
  f.width - f.precision + 2

/-- The magnitude without its sign bit. -/
def magnitudeBits (f : Format) (units : Nat) : Nat :=
  let lead := 1 <<< (f.precision - 1)
  if units < lead then units
  else
    let spacing := f.spacing units
    (spacing + 1) <<< (f.precision - 1) ||| ((units >>> spacing) - lead)

/-- The encoding as a whole number. -/
def toBits : Floating f → Nat
  | .nan => topExponent f <<< (f.precision - 1) ||| 1 <<< (f.precision - 2)
  | .infinite s => sign s ||| topExponent f <<< (f.precision - 1)
  | .finite s n _ => sign s ||| magnitudeBits f n
where
  sign (negative : Bool) : Nat :=
    if negative then (topExponent f + 1) <<< (f.precision - 1) else 0

/-- The number that `bits` encodes. -/
def ofBits (bits : Nat) : Floating f :=
  let fraction := bits % 1 <<< (f.precision - 1)
  let exponent := (bits >>> (f.precision - 1)) % (topExponent f + 1)
  let negative := (bits >>> (f.precision - 1)) / (topExponent f + 1) % 2 == 1
  if exponent = topExponent f then
    if fraction = 0 then .infinite negative else .nan
  else if exponent = 0 then
    ofRatio negative fraction 1
  else
    ofRatio negative ((1 <<< (f.precision - 1) ||| fraction) <<< (exponent - 1)) 1

end StatusPanel.Floating
