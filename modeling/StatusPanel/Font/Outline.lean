import StatusPanel.Font.Table
import StatusPanel.Geometry

/-!
# Glyph outlines

A glyph is a set of closed contours of points, on or off the curve, or an arrangement of other
glyphs. Between two neighbouring points off the curve lies one on it, in the middle. The result is
a list of lines and quadratic curves in the font's units, `y` growing upwards.
-/

namespace StatusPanel.Font

/-- A piece of an outline. -/
inductive Curve where
  | line (start stop : Point)
  | quadratic (start control stop : Point)

/-- A point of a contour. -/
structure ContourPoint where
  place : Point
  onCurve : Bool

/-- A step along a contour. -/
inductive Step where
  | move (stop : Point)
  | line (stop : Point)
  | quadratic (control stop : Point)
  | close

/-- The middle of two points. -/
def middle (a b : Point) : Point :=
  let half := Floating.ofDecimal 5 1
  ⟨a.x + half * (b.x - a.x), a.y + half * (b.y - a.y)⟩

/-! ## Contours -/

/-- The steps past the start of a contour, `pending` being the point off the curve that was just
passed. The steps come with what is pending in the end. -/
def walk (pending : Option Point) : List ContourPoint → List Step × Option Point
  | [] => ([], pending)
  | p :: rest =>
    match pending, p.onCurve with
    | some q, true =>
      let (steps, last) := walk none rest
      (.quadratic q p.place :: steps, last)
    | some q, false =>
      let (steps, last) := walk (some p.place) rest
      (.quadratic q (middle q p.place) :: steps, last)
    | none, true =>
      let (steps, last) := walk none rest
      (.line p.place :: steps, last)
    | none, false => walk (some p.place) rest

/-- The steps from the end of a contour back to its start, `first` being the point off the curve
that came before the start. -/
def closing (start : Point) (first pending : Option Point) : List Step :=
  match first, pending with
  | some f, some q => [.quadratic q (middle q f), .quadratic f start, .close]
  | some f, none => [.quadratic f start, .close]
  | none, some q => [.quadratic q start, .close]
  | none, none => [.line start, .close]

/-- The steps along a contour; back to its start if it is `complete`. -/
def contourSteps (points : List ContourPoint) (complete : Bool) : List Step :=
  let run (start : Point) (first pending : Option Point) (rest : List ContourPoint) : List Step :=
    let (steps, last) := walk pending rest
    .move start :: steps ++ if complete then closing start first last else []
  match points with
  | [] => []
  | p :: rest =>
    if p.onCurve then run p.place none none rest
    else
      match rest with
      | [] => []
      | q :: rest =>
        if q.onCurve then run q.place (some p.place) none rest
        else run (middle p.place q.place) (some p.place) (some q.place) rest

/-- Takes apart a list into contours of the given lengths. When the lengths run out each point is
a contour; a last contour that is too short is incomplete. -/
def splitContours : List Nat → List ContourPoint → List (List ContourPoint × Bool)
  | _, [] => []
  | [], p :: rest => ([p], true) :: splitContours [] rest
  | n :: lengths, p :: rest =>
    let points := p :: rest
    (points.take n, n ≤ points.length) ::
      splitContours lengths (points.drop n)
termination_by lengths points => lengths.length + points.length

/-- The lengths of contours whose last points are given. One that does not go on has one point. -/
def contourLengths : List Nat → List Nat
  | [] => []
  | first :: rest => (first + 1) :: (rest.zip (first :: rest)).map fun (stop, before) =>
    max 1 (stop - before)

/-! ## Simple glyphs -/

/-- The flags of the points, a repeated one as often as it counts, and the offset after them. -/
def readFlags? (t : Table) : (fuel count offset : Nat) → Option (List Nat × Nat)
  | _, 0, offset => some ([], offset)
  | 0, _ + 1, _ => none
  | fuel + 1, count, offset => do
    let flags ← t.byte? offset
    if flags / 8 % 2 = 1 then
      let times := (← t.byte? (offset + 1)) + 1
      guard (times ≤ count)
      let (rest, stop) ← readFlags? t fuel (count - times) (offset + 2)
      return (List.replicate times flags ++ rest, stop)
    else
      let (rest, stop) ← readFlags? t fuel (count - 1) (offset + 1)
      return (flags :: rest, stop)

/-- Coordinates along one axis as running sums of 16 bits. A flag says whether a coordinate is one
byte, and then its sign, or else whether it repeats the one before. -/
def readCoordinates? (t : Table) (short same : Nat) (value : Int) (offset : Nat) :
    List Nat → Option (List Int × Nat)
  | [] => some ([], offset)
  | flags :: rest => do
    let isShort := flags / short % 2 = 1
    let isSame := flags / same % 2 = 1
    let (change, stop) ←
      if isShort then do
        let n ← t.byte? offset
        pure (if isSame then (n : Int) else -(n : Int), offset + 1)
      else if isSame then pure (0, offset)
      else do pure (← t.short? offset, offset + 2)
    let value := Table.toSigned 65536 ((value + change) % 65536).toNat
    let (values, stop) ← readCoordinates? t short same value stop rest
    return (value :: values, stop)

/-- Reads the contours of a simple glyph after its header. A glyph of one point has none. -/
def readSimple? (t : Table) (contours : Nat) : Option (List (List ContourPoint × Bool)) := do
  let ends ← (List.range contours).mapM fun i => t.word? (10 + 2 * i)
  let total := (ends.getLast?.getD 0) + 1
  guard (total ≤ 65535)
  if total = 1 then
    return []
  let offset := 10 + 2 * contours
  let offset := offset + 2 + (← t.word? offset)
  let (flags, offset) ← readFlags? t total total offset
  let (xs, offset) ← readCoordinates? t 2 16 0 offset flags
  let (ys, _) ← readCoordinates? t 4 32 0 offset flags
  let points := (flags.zip (xs.zip ys)).map fun (flags, x, y) =>
    { place := ⟨.ofInt x, .ofInt y⟩, onCurve := flags % 2 = 1 : ContourPoint }
  return splitContours (contourLengths ends) points

/-! ## Arrangements of glyphs -/

/-- An affine map: `x' = a x + c y + e`, `y' = b x + d y + f`. -/
structure Transform where
  a : Single := 1
  b : Single := 0
  c : Single := 0
  d : Single := 1
  e : Single := 0
  f : Single := 0
  deriving DecidableEq

namespace Transform

/-- First `inner`, then `outer`. -/
def combine (outer inner : Transform) : Transform :=
  { a := outer.a * inner.a + outer.c * inner.b
    b := outer.b * inner.a + outer.d * inner.b
    c := outer.a * inner.c + outer.c * inner.d
    d := outer.b * inner.c + outer.d * inner.d
    e := outer.a * inner.e + outer.c * inner.f + outer.e
    f := outer.b * inner.e + outer.d * inner.f + outer.f }

def apply (t : Transform) (p : Point) : Point :=
  if t = {} then p
  else ⟨t.a * p.x + t.c * p.y + t.e, t.b * p.x + t.d * p.y + t.f⟩

def applyStep (t : Transform) : Step → Step
  | .move p => .move (t.apply p)
  | .line p => .line (t.apply p)
  | .quadratic c p => .quadratic (t.apply c) (t.apply p)
  | .close => .close

end Transform

/-- A number with fourteen fraction bits. -/
def readFraction? (t : Table) (offset : Nat) : Option Single := do
  return Floating.ofInt (← t.short? offset) / 16384

/-- A part of a composite glyph, whether more follow, and the offset after it. -/
def readPart? (t : Table) (offset : Nat) : Option ((Nat × Transform) × Bool × Nat) := do
  let flags ← t.word? offset
  let glyph ← t.word? (offset + 2)
  let offset := offset + 4
  let has (bit : Nat) : Bool := flags / bit % 2 = 1
  let (shift, offset) ←
    if has 2 then
      if has 1 then do
        pure ((← t.short? offset, ← t.short? (offset + 2)), offset + 4)
      else do
        pure ((← t.signedByte? offset, ← t.signedByte? (offset + 1)), offset + 2)
    else pure ((0, 0), offset)
  let moved : Transform := { e := .ofInt shift.1, f := .ofInt shift.2 }
  let (transform, offset) ←
    if has 128 then do
      pure ({ moved with
        a := ← readFraction? t offset
        b := ← readFraction? t (offset + 2)
        c := ← readFraction? t (offset + 4)
        d := ← readFraction? t (offset + 6) }, offset + 8)
    else if has 64 then do
      pure ({ moved with
        a := ← readFraction? t offset
        d := ← readFraction? t (offset + 2) }, offset + 4)
    else if has 8 then do
      let scale ← readFraction? t offset
      pure ({ moved with a := scale, d := scale }, offset + 2)
    else pure (moved, offset)
  return ((glyph, transform), has 32, offset)

/-- The parts of a composite glyph, up to the first that cannot be read. -/
def readParts (t : Table) : (fuel offset : Nat) → List (Nat × Transform)
  | 0, _ => []
  | fuel + 1, offset =>
    match readPart? t offset with
    | none => []
    | some (part, more, stop) => part :: if more then readParts t fuel stop else []

/-! ## Glyphs -/

/-- The descriptions of a font's glyphs, each between two offsets. -/
structure GlyphTable where
  offsets : Array Nat
  data : Table

namespace GlyphTable

/-- Reads the offsets of at most `glyphs` glyphs, as halves in two bytes or as they are in four. -/
def read (locations data : Table) (long : Bool) (glyphs : Nat) : GlyphTable :=
  let wanted := min 65535 (glyphs + 1)
  let count := min wanted ((if long then locations.size / 4 else locations.size / 2) % 65536)
  let offsets := (List.range count).map fun i =>
    if long then (locations.long? (4 * i)).getD 0
    else 2 * (locations.word? (2 * i)).getD 0
  ⟨offsets.toArray, data⟩

/-- The description of a glyph. -/
def description? (g : GlyphTable) (glyph : Nat) : Option Table := do
  guard (glyph < 65535)
  let start ← g.offsets[glyph]?
  let stop ← g.offsets[glyph + 1]?
  guard (start < stop)
  g.data.slice? start stop

/-- The steps along the contours of a described glyph, nested at most `fuel` deep. -/
def steps? (g : GlyphTable) : (fuel : Nat) → Transform → Table → Option (List Step)
  | 0, _, _ => none
  | fuel + 1, transform, t => do
    let contours ← t.short? 0
    guard (10 ≤ t.size)
    if 0 < contours then
      let split ← readSimple? t contours.toNat
      return split.flatMap fun (points, complete) =>
        (contourSteps points complete).map transform.applyStep
    else if contours < 0 then
      let parts ← (readParts t t.size 10).mapM fun (glyph, part) =>
        match g.description? glyph with
        | none => some []
        | some inner => steps? g fuel (transform.combine part) inner
      return parts.flatten
    else return []

end GlyphTable

/-! ## Outlines -/

/-- The pieces of steps, from the point `last` on; closing a contour draws a line to its start. -/
def curves (last : Point) (start : Option Point) : List Step → List Curve
  | [] => []
  | .move p :: rest => curves p (some p) rest
  | .line p :: rest => .line last p :: curves p start rest
  | .quadratic c p :: rest => .quadratic last c p :: curves p start rest
  | .close :: rest =>
    match start with
    | some p => .line last p :: curves last none rest
    | none => curves last none rest

/-- A box around points, `y` growing upwards. -/
structure Bounds where
  left : Int
  bottom : Int
  right : Int
  top : Int

/-- The points that a step names. -/
def Step.points : Step → List Point
  | .move p => [p]
  | .line p => [p]
  | .quadratic c p => [c, p]
  | .close => []

/-- A bound as a whole number of 16 bits, without its fraction. -/
def wholeBound? (x : Single) : Option Int :=
  if x.isFinite then
    let n := x.toInt64
    if -32768 ≤ n ∧ n ≤ 32767 then some n else none
  else none

/-- The box of all points of the steps, if it has an inside. -/
def bounds? (steps : List Step) : Option Bounds := do
  let points := steps.flatMap Step.points
  guard (!points.isEmpty)
  let xs := points.map Point.x
  let ys := points.map Point.y
  let left ← wholeBound? (xs.foldl Floating.least (.infinite false))
  let bottom ← wholeBound? (ys.foldl Floating.least (.infinite false))
  let right ← wholeBound? (xs.foldl Floating.greatest (.infinite true))
  let top ← wholeBound? (ys.foldl Floating.greatest (.infinite true))
  guard (left < right ∧ bottom < top)
  return { left, bottom, right, top }

/-- An outline with its box. -/
structure Outline where
  bounds : Bounds
  curves : List Curve

/-- The outline of a glyph, if it has one. -/
def GlyphTable.outline? (g : GlyphTable) (glyph : Nat) : Option Outline := do
  let steps ← g.steps? 32 {} (← g.description? glyph)
  return { bounds := ← bounds? steps, curves := curves {} none steps }

end StatusPanel.Font
