import StatusPanel.Floating.Format

/-!
# Floating-point numbers

Each operation computes the exact result as a quotient of whole numbers and rounds it once. A
finite number carries the proof that its format has it.
-/

namespace StatusPanel

/-- A number of the format `f`. Zero has a sign. -/
inductive Floating (f : Format) where
  | nan
  | infinite (negative : Bool)
  | finite (negative : Bool) (units : Nat) (representable : f.Representable units)
  deriving DecidableEq

/-- Numbers of the 32-bit format. -/
abbrev Single := Floating .single

/-- Numbers of the 64-bit format. -/
abbrev Double := Floating .double

namespace Floating

variable {f : Format}

/-- The number nearest to `num / den` units with the given sign; what rounds past the format's end
is infinite. -/
def ofRatio (negative : Bool) (num den : Nat) : Floating f :=
  let units := f.nearest num den
  if h : units.log2 < f.width then
    .finite negative units ⟨h, Format.spacing_dvd_nearest f num den⟩
  else
    .infinite negative

/-- The number nearest to a whole number. -/
def ofNat (n : Nat) : Floating f :=
  ofRatio false (n <<< f.scale) 1

/-- The number nearest to an integer. -/
def ofInt (n : Int) : Floating f :=
  ofRatio (n < 0) (n.natAbs <<< f.scale) 1

/-- The number nearest to the decimal `digits / 10 ^ places`. -/
def ofDecimal (digits places : Nat) : Floating f :=
  ofRatio false (digits <<< f.scale) (Nat.pow 10 places)

instance (n : Nat) : OfNat (Floating f) n := ⟨ofNat n⟩

instance : Inhabited (Floating f) := ⟨0⟩

instance : Coe Nat (Floating f) := ⟨ofNat⟩

/-- The sign; that of NaN is immaterial. -/
def negative : Floating f → Bool
  | .nan => false
  | .infinite s => s
  | .finite s _ _ => s

def isNan : Floating f → Bool
  | .nan => true
  | _ => false

def isFinite : Floating f → Bool
  | .finite .. => true
  | _ => false

def neg : Floating f → Floating f
  | .nan => .nan
  | .infinite s => .infinite !s
  | .finite s n h => .finite (!s) n h

def abs : Floating f → Floating f
  | .nan => .nan
  | .infinite _ => .infinite false
  | .finite _ n h => .finite false n h

/-- A signed count of units. -/
def signed (negative : Bool) (units : Nat) : Int :=
  if negative then -units else units

/-- The sum. An exact sum of nothing is positive zero unless both terms are negative. -/
def add : Floating f → Floating f → Floating f
  | .nan, _ => .nan
  | _, .nan => .nan
  | .infinite s, .infinite t => if s == t then .infinite s else .nan
  | .infinite s, .finite .. => .infinite s
  | .finite .., .infinite t => .infinite t
  | .finite s m _, .finite t n _ =>
    let sum := signed s m + signed t n
    ofRatio (if sum = 0 then s && t else sum < 0) sum.natAbs 1

def sub (x y : Floating f) : Floating f :=
  x.add y.neg

def mul : Floating f → Floating f → Floating f
  | .nan, _ => .nan
  | _, .nan => .nan
  | .infinite s, .infinite t => .infinite (s != t)
  | .infinite s, .finite t n _ => if n = 0 then .nan else .infinite (s != t)
  | .finite s m _, .infinite t => if m = 0 then .nan else .infinite (s != t)
  | .finite s m _, .finite t n _ => ofRatio (s != t) (m * n) (1 <<< f.scale)

def div : Floating f → Floating f → Floating f
  | .nan, _ => .nan
  | _, .nan => .nan
  | .infinite _, .infinite _ => .nan
  | .infinite s, .finite t _ _ => .infinite (s != t)
  | .finite s _ _, .infinite t => ofRatio (s != t) 0 1
  | .finite s m _, .finite t n _ =>
    if n = 0 then
      if m = 0 then .nan else .infinite (s != t)
    else
      ofRatio (s != t) (m <<< f.scale) n

instance : Neg (Floating f) := ⟨neg⟩
instance : Add (Floating f) := ⟨add⟩
instance : Sub (Floating f) := ⟨sub⟩
instance : Mul (Floating f) := ⟨mul⟩
instance : Div (Floating f) := ⟨div⟩

/-- The whole square root. -/
def wholeSqrt (n : Nat) : Nat :=
  if n = 0 then 0
  else
    let root := 2 * wholeSqrt (n / 4)
    if (root + 1) * (root + 1) ≤ n then root + 1 else root
termination_by n
decreasing_by omega

/-- The square root. The bit after the whole root tells an inexact root from an exact one, which
is all that rounding asks. -/
def sqrt : Floating f → Floating f
  | .nan => .nan
  | .infinite s => if s then .nan else .infinite false
  | .finite s n h =>
    if n = 0 then .finite s n h
    else if s then .nan
    else
      let square := n <<< f.scale
      let root := wholeSqrt square
      ofRatio false (2 * root + if root * root = square then 0 else 1) 2

/-- Converts to another format, rounding to nearest. -/
def convert {g : Format} : Floating f → Floating g
  | .nan => .nan
  | .infinite s => .infinite s
  | .finite s n _ => ofRatio s (n <<< g.scale) (1 <<< f.scale)

end Floating

end StatusPanel
