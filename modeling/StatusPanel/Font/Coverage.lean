import StatusPanel.Font.Text

/-!
# Which pixels a text inks

How much of each pixel lies inside an outline is computed exactly for every row that a line
crosses: a line tells each cell by how much the covered area changes there, and the running sum of
these changes along the cells is the coverage. Curves are cut into lines first. A pixel is inked if
at least one half of it is covered.
-/

namespace StatusPanel.Font

/-! ## Lines -/

/-- A change of the covered area from one cell on. -/
structure Change where
  cell : Int
  amount : Single
  /-- The changes after one that falls outside the cells are lost with it, unless it is passed
  over. -/
  passedOver : Bool := false

/-- Makes changes in order, and tells whether none was lost. -/
def applyChanges (cells : Array Single) : List Change → Array Single × Bool
  | [] => (cells, true)
  | c :: rest =>
    if 0 ≤ c.cell ∧ c.cell < cells.size then
      applyChanges (cells.modify c.cell.toNat (· + c.amount)) rest
    else if c.passedOver then applyChanges cells rest
    else (cells, false)

/-- One half. -/
def half : Single :=
  .ofDecimal 5 1

/-- The changes on a row whose first cell is `row`, where a line goes from `x` to `next` and covers
the signed height `height`. -/
def rowChanges (row : Nat) (x next height : Single) : List Change :=
  let (left, right) := if x.less next then (x, next) else (next, x)
  let first := left.floor.toInt32
  let last := right.ceil.toInt32
  let change (i : Int) (share : Single) : Change := ⟨row + i, height * share, false⟩
  if last ≤ first + 1 then
    let share := half * (x + next) - left.floor
    [⟨row + first, height - height * share, false⟩, change (first + 1) share]
  else
    let slope := 1 / (right - left)
    let entering := 1 - (left - left.floor)
    let leaving := right - right.ceil + 1
    let firstShare := half * slope * entering * entering
    let lastShare := half * slope * leaving * leaving
    let middle :=
      if last = first + 2 then [change (first + 1) (1 - firstShare - lastShare)]
      else
        let second := slope * (.ofDecimal 15 1 - (left - left.floor))
        let whole := (List.range (last - first - 3).toNat).map fun (i : Nat) =>
          { change (first + 2 + i) slope with passedOver := true }
        let before := second + .ofInt (last - first - 3) * slope
        change (first + 1) (second - firstShare) :: whole ++
          [change (last - 1) (1 - before - lastShare)]
    change first firstShare :: middle ++ [change last lastShare]

/-- The cells of a box of pixels, row by row, each with its change of the covered area. -/
structure Coverage where
  width : Nat
  height : Nat
  cells : Array Single

namespace Coverage

/-- Nothing covered. A few more cells take what a line leaves to the right of the last pixel. -/
def empty (width height : Nat) : Coverage :=
  ⟨width, height, Array.replicate (width * height + 4) 0⟩

/-- A line, downwards or upwards. -/
def line (c : Coverage) (p q : Point) : Coverage :=
  if (p.y - q.y).abs.lessEq (.ofRatio false (1 <<< (149 - 23)) 1) then c
  else
    let (direction, p, q) : Single × Point × Point :=
      if p.y.less q.y then (1, p, q) else (-1, q, p)
    let slope := (q.x - p.x) / (q.y - p.y)
    let start := if p.y.less 0 then p.x - p.y * slope else p.x
    let top := (p.y.greatest 0).toNat64
    let bottom := min c.height q.y.ceil.toNat64
    let step := fun (cells, x) (y : Nat) =>
      let height := (Floating.ofNat (y + 1)).least q.y - (Floating.ofNat y).greatest p.y
      let next := x + slope * height
      let (cells, complete) := applyChanges cells
        (rowChanges (y * c.width) x next (height * direction))
      (cells, if complete then next else x)
    let (cells, _) := (List.range' top (bottom - top)).foldl step (c.cells, start)
    { c with cells }

end Coverage

/-! ## Curves -/

/-- The point at the share `t` of the way. -/
def between (t : Single) (p q : Point) : Point :=
  ⟨p.x + t * (q.x - p.x), p.y + t * (q.y - p.y)⟩

/-- The points at `count` steps along a curve, after the share `t`. -/
def pointsAlong (p c q : Point) (step t : Single) : (count : Nat) → List Point
  | 0 => []
  | count + 1 =>
    let t := t + step
    between t (between t p c) (between t c q) :: pointsAlong p c q step t count

/-- The points after the first one of the lines that stand for a quadratic curve: the more it
bends, the more lines. -/
def flatten (p c q : Point) : List Point :=
  let bendX := p.x - 2 * c.x + q.x
  let bendY := p.y - 2 * c.y + q.y
  let bend := bendX * bendX + bendY * bendY
  if bend.less (.ofDecimal 333 3) then [q]
  else
    let more := (3 * bend).sqrt.sqrt.toNat64
    pointsAlong p c q (1 / .ofNat (more + 1)) 0 more ++ [q]

namespace Coverage

/-- Lines from point to point. -/
def lines (c : Coverage) (p : Point) : List Point → Coverage
  | [] => c
  | q :: rest => (c.line p q).lines q rest

/-- A piece of an outline, its points moved by `move`. -/
def curve (c : Coverage) (move : Point → Point) : Curve → Coverage
  | .line p q => c.line (move p) (move q)
  | .quadratic p b q => c.lines (move p) (flatten (move p) (move b) (move q))

/-- The running sums of a list of changes. -/
def sums (before : Single) : List Single → List Single
  | [] => []
  | change :: rest => (before + change) :: sums (before + change) rest

/-- The numbers of the pixels that are inked. What is no number is inked too. -/
def inked (c : Coverage) : List Nat :=
  ((sums 0 (c.cells.toList.take (c.width * c.height))).zipIdx.filter fun (area, _) =>
    !area.abs.less half).map (·.2)

end Coverage

/-- The pixels that an outline inks at a place. -/
def Outline.inked (o : Outline) (scale : Single) (place : Point) : List (Int × Int) :=
  let box := o.bounds.pixelBox scale place
  let width := (box.right - box.left).toNat64
  let height := (box.bottom - box.top).toNat64
  let shiftX := place.x - box.left
  let shiftY := place.y - box.top
  let move (p : Point) : Point := ⟨p.x * scale + shiftX, p.y * -scale + shiftY⟩
  let coverage := o.curves.foldl (fun c piece => Coverage.curve c move piece)
    (Coverage.empty width height)
  coverage.inked.map fun i =>
    (box.left.toInt64 + (i % width : Nat), box.top.toInt64 + (i / width : Nat))

end StatusPanel.Font

namespace StatusPanel

/-- The pixels that a text inks, glyph after glyph. -/
def TextStyle.inked (s : TextStyle) (origin : Point) (text : String) : List (Int × Int) :=
  (s.layout origin text).flatMap fun g =>
    match s.font.glyphs.outline? g.glyph with
    | some o => o.inked s.scale g.place
    | none => []

end StatusPanel
