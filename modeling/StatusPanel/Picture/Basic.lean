import StatusPanel.Geometry

/-!
# Pictures

A picture is a grid of pixels, row by row from the top. A pixel is named by its column and its row.
Main statement: after `paint` a pixel has the new colour if it is among those painted, and is as it
was otherwise (`pixel?_paint`).
-/

namespace StatusPanel

/-- The column and the row of a pixel. -/
abbrev Pixel := Nat × Nat

/-- A grid of coloured pixels. -/
structure Picture where
  width : Nat
  height : Nat
  pixels : Array Color
  size_pixels : pixels.size = width * height

namespace Picture

/-- A picture of one colour. -/
def filled (width height : Nat) (color : Color) : Picture :=
  ⟨width, height, Array.replicate (width * height) color, by simp⟩

/-- A picture on which nothing is drawn. -/
def blank (width height : Nat) : Picture :=
  filled width height .paper

/-- The colour of a pixel, if the picture has it. -/
def pixel? (p : Picture) (place : Pixel) : Option Color :=
  if place.1 < p.width then p.pixels[place.2 * p.width + place.1]? else none

/-- Colours a pixel, if the picture has it. -/
def set (p : Picture) (place : Pixel) (color : Color) : Picture :=
  if place.1 < p.width then
    { p with
      pixels := p.pixels.setIfInBounds (place.2 * p.width + place.1) color
      size_pixels := by simp [p.size_pixels] }
  else p

/-- Colours pixels. -/
def paint (p : Picture) (pixels : List Pixel) (color : Color) : Picture :=
  pixels.foldl (fun p place => p.set place color) p

@[simp] theorem width_set (p : Picture) (place : Pixel) (color : Color) :
    (p.set place color).width = p.width := by
  unfold set; split <;> rfl

@[simp] theorem height_set (p : Picture) (place : Pixel) (color : Color) :
    (p.set place color).height = p.height := by
  unfold set; split <;> rfl

/-- Two pixels inside the columns have different numbers. -/
theorem index_inj {w x y x' y' : Nat} (hx : x < w) (hx' : x' < w)
    (h : y * w + x = y' * w + x') : x = x' ∧ y = y' := by
  have hy : y = y' := by
    have h₁ : (y * w + x) / w = y := by
      rw [Nat.mul_comm, Nat.mul_add_div (by omega), Nat.div_eq_of_lt hx, Nat.add_zero]
    have h₂ : (y' * w + x') / w = y' := by
      rw [Nat.mul_comm, Nat.mul_add_div (by omega), Nat.div_eq_of_lt hx', Nat.add_zero]
    rw [← h₁, ← h₂, h]
  subst hy
  exact ⟨by omega, rfl⟩

/-- The numbers of the pixels inside the columns tell whether the rows hold them. -/
theorem index_lt_iff {w h x y : Nat} (hx : x < w) : y * w + x < w * h ↔ y < h := by
  rw [Nat.mul_comm w]
  constructor
  · intro hi
    refine Nat.lt_of_not_le fun hy => ?_
    have hrows : h * w ≤ y * w := Nat.mul_le_mul_right _ hy
    omega
  · intro hy
    have hrows : (y + 1) * w ≤ h * w := Nat.mul_le_mul_right _ hy
    rw [Nat.add_mul, Nat.one_mul] at hrows
    omega

theorem pixel?_set (p : Picture) (place other : Pixel) (color : Color) :
    (p.set place color).pixel? other =
      if other = place then (p.pixel? other).map fun _ => color else p.pixel? other := by
  obtain ⟨x, y⟩ := place
  obtain ⟨x', y'⟩ := other
  by_cases hx : x < p.width
  · simp only [set, hx, if_true, pixel?]
    by_cases hx' : x' < p.width
    · simp only [hx', if_true, Array.getElem?_setIfInBounds]
      by_cases hi : y * p.width + x = y' * p.width + x'
      · obtain ⟨rfl, rfl⟩ := index_inj hx hx' hi
        simp only [if_true]
        by_cases hs : y * p.width + x < p.pixels.size
        · simp [hs]
        · simp [hs]
      · have hne : ¬(x', y') = (x, y) := by
          rintro h
          cases h
          exact hi rfl
        simp [hi, hne]
    · simp [hx']
  · simp only [set, hx, if_false]
    split
    · next h =>
      cases h
      simp [pixel?, hx]
    · rfl

@[simp] theorem width_paint (p : Picture) (pixels : List Pixel) (color : Color) :
    (p.paint pixels color).width = p.width := by
  induction pixels generalizing p with
  | nil => rfl
  | cons place rest ih => simp [paint, List.foldl_cons] at ih ⊢; rw [ih]; simp

@[simp] theorem height_paint (p : Picture) (pixels : List Pixel) (color : Color) :
    (p.paint pixels color).height = p.height := by
  induction pixels generalizing p with
  | nil => rfl
  | cons place rest ih => simp [paint, List.foldl_cons] at ih ⊢; rw [ih]; simp

theorem pixel?_paint (p : Picture) (pixels : List Pixel) (color : Color) (place : Pixel) :
    (p.paint pixels color).pixel? place =
      if place ∈ pixels then (p.pixel? place).map fun _ => color else p.pixel? place := by
  induction pixels generalizing p with
  | nil => rfl
  | cons first rest ih =>
    have step : p.paint (first :: rest) color = (p.set first color).paint rest color := rfl
    rw [step, ih, pixel?_set]
    by_cases hr : place ∈ rest <;> by_cases hf : place = first <;>
      simp [hr, hf, Function.comp_def]

end Picture

end StatusPanel
