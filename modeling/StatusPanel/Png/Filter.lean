import StatusPanel.Bytes

/-!
# Row filters

Before it is compressed, a row of a picture may be replaced by its differences to a guess at each
byte, made from the bytes to the left, above and above left.
-/

namespace StatusPanel.Png

/-- The one of left, above and above left that is nearest to left + above - above left. -/
def nearestNeighbour (left above corner : Nat) : Nat :=
  let guess : Int := (left : Int) + above - corner
  let toLeft := (guess - left).natAbs
  let toAbove := (guess - above).natAbs
  let toCorner := (guess - corner).natAbs
  if toLeft ≤ toAbove ∧ toLeft ≤ toCorner then left
  else if toAbove ≤ toCorner then above
  else corner

/-- The guess of a filter, if there is one of that number. -/
def guess? (filter : Nat) : Option (Nat → Nat → Nat → Nat) :=
  match filter with
  | 0 => some fun _ _ _ => 0
  | 1 => some fun left _ _ => left
  | 2 => some fun _ above _ => above
  | 3 => some fun left above _ => (left + above) / 2
  | 4 => some nearestNeighbour
  | _ => none

/-- The bytes of a row whose differences are given. `stride` bytes are a pixel; outside of the
picture there are zeros. -/
def unfilter (guess : Nat → Nat → Nat → Nat) (stride : Nat) (above : Array UInt8)
    (differences : Bytes) : Array UInt8 :=
  differences.foldl (fun row b =>
    let cell (cells : Array UInt8) (i : Nat) : Nat := (cells[i]?.getD 0).toNat
    let i := row.size
    let left := if stride ≤ i then cell row (i - stride) else 0
    let corner := if stride ≤ i then cell above (i - stride) else 0
    row.push (.ofNat (b.toNat + guess left (cell above i) corner))) #[]

/-- The rows of a picture, each of `length` bytes after the number of its filter. -/
def readRows? (length stride : Nat) (above : Array UInt8) (bytes : Bytes) :
    (count : Nat) → Option (List (Array UInt8))
  | 0 => some []
  | count + 1 =>
    match bytes with
    | [] => none
    | filter :: rest => do
      guard (length ≤ rest.length)
      let row := unfilter (← guess? filter.toNat) stride above (rest.take length)
      return row :: (← readRows? length stride row (rest.drop length) count)

end StatusPanel.Png
