import StatusPanel.Font.Table

/-!
# Kerning

Kerning moves a glyph toward or away from the one before it. Only tables of sorted pairs for
horizontal text are read; one that cannot be read ends the list.
-/

namespace StatusPanel.Font

/-- Sorted pairs of glyphs, each pair as one number, with their distances. -/
abbrev KerningPairs := Array (Nat × Int)

namespace KerningPairs

/-- Reads pairs: their number, then six bytes, then the pairs. -/
def read? (t : Table) : Option KerningPairs := do
  let count ← t.word? 0
  guard (8 + 6 * count ≤ t.size)
  let pairs ← (List.range count).mapM fun i => do
    let pair := 8 + 6 * i
    return (← t.long? pair, ← t.short? (pair + 4))
  return pairs.toArray

/-- The distance of a pair. -/
def distance? (pairs : KerningPairs) (left right : Nat) : Option Int := do
  let key := 65536 * left + right
  let order (i : Nat) : Ordering :=
    match pairs[i]? with
    | some (pair, _) => compare pair key
    | none => .gt
  let (_, distance) ← pairs[← find? order pairs.size]?
  return distance

end KerningPairs

/-- The tables of pairs, in order. -/
abbrev Kerning := List KerningPairs

namespace Kerning

/-- Reads subtables from an offset on. The only one of a table reaches to its end, whatever its
length says. Vertical ones are passed over. -/
def readFrom (t : Table) (only : Bool) : (count offset : Nat) → Kerning
  | 0, _ => []
  | count + 1, offset =>
    match t.word? (offset + 2), t.byte? (offset + 4), t.byte? (offset + 5) with
    | some length, some format, some coverage =>
      let stop := if only then t.size else offset + length
      match t.slice? (offset + 6) stop with
      | none => []
      | some body =>
        let rest := readFrom t only count (offset + length)
        if format = 0 then
          match KerningPairs.read? body with
          | none => []
          | some pairs => if coverage % 2 = 1 then pairs :: rest else rest
        else if format = 2 then rest
        else []
    | _, _, _ => []

/-- Reads a kerning table. -/
def read (t : Table) : Kerning :=
  match t.word? 0, t.word? 2 with
  | some 0, some count => readFrom t (count = 1) count 4
  | _, _ => []

/-- The distance of a pair, zero if it has none. -/
def distance (k : Kerning) (left right : Nat) : Int :=
  (k.findSome? fun pairs => pairs.distance? left right).getD 0

end Kerning

end StatusPanel.Font
