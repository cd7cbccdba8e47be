import StatusPanel.Proofs.Footprint
import StatusPanel.Proofs.Painting

/-!
# Clipping

A smaller picture of a document is the top left corner of a larger one. Main statements: a mark
made on both keeps the one a corner of the other (`CornerOf.draw`), and so does a whole document
(`paint_blank_corner`).
-/

namespace StatusPanel

namespace Picture

/-! ## Blank pictures -/

theorem pixel?_filled (width height : Nat) (color : Color) {x y : Nat} :
    (filled width height color).pixel? (x, y) =
      if x < width ∧ y < height then some color else none := by
  simp only [filled, pixel?, Array.getElem?_replicate]
  by_cases hx : x < width
  · simp only [hx, if_true, true_and]
    simp only [index_lt_iff hx]
  · simp [hx]

/-! ## Corners -/

/-- The picture shows what the top left corner of another one shows. -/
structure CornerOf (small large : Picture) : Prop where
  width_le : small.width ≤ large.width
  height_le : small.height ≤ large.height
  pixel?_eq : ∀ x < small.width, ∀ y < small.height, small.pixel? (x, y) = large.pixel? (x, y)

namespace CornerOf

variable {small large : Picture}

theorem blank {w₁ h₁ w₂ h₂ : Nat} (hw : w₁ ≤ w₂) (hh : h₁ ≤ h₂) :
    CornerOf (blank w₁ h₁) (Picture.blank w₂ h₂) where
  width_le := hw
  height_le := hh
  pixel?_eq := by
    intro x hx y hy
    have hx₁ : x < w₁ := hx
    have hy₁ : y < h₁ := hy
    simp only [Picture.blank, pixel?_filled]
    rw [if_pos ⟨hx₁, hy₁⟩, if_pos ⟨by omega, by omega⟩]

/-- Colouring the same pixels of the corner in both pictures. -/
theorem paint (h : CornerOf small large) {ps qs : List Pixel} (color : Color)
    (hmem : ∀ x < small.width, ∀ y < small.height, (x, y) ∈ ps ↔ (x, y) ∈ qs) :
    CornerOf (small.paint ps color) (large.paint qs color) where
  width_le := by simpa using h.width_le
  height_le := by simpa using h.height_le
  pixel?_eq := by
    intro x hx y hy
    rw [width_paint] at hx
    rw [height_paint] at hy
    rw [pixel?_paint, pixel?_paint, h.pixel?_eq x hx y hy]
    by_cases hp : (x, y) ∈ ps
    · rw [if_pos hp, if_pos ((hmem x hx y hy).1 hp)]
    · rw [if_neg hp, if_neg fun hq => hp ((hmem x hx y hy).2 hq)]

end CornerOf

/-! ## Marks -/

namespace CornerOf

variable {small large : Picture}

/-- A mark colours the same pixels of the corner on both pictures, wherever its edges lie. -/
theorem draw (h : CornerOf small large) (hw : large.width ≤ longestLine)
    (hh : large.height ≤ longestLine) (m : Mark) : CornerOf (m.draw small) (m.draw large) := by
  have hw₁ : small.width ≤ longestLine := Nat.le_trans h.width_le hw
  have hh₁ : small.height ≤ longestLine := Nat.le_trans h.height_le hh
  cases m with
  | fill rect color =>
    refine h.paint color ?_
    intro x hx y hy
    have hx' : x < large.width := Nat.lt_of_lt_of_le hx h.width_le
    have hy' : y < large.height := Nat.lt_of_lt_of_le hy h.height_le
    rw [Rect.mem_footprint hw₁ hh₁, Rect.mem_footprint hw hh]
    -- the edges may be cut off elsewhere on the other picture, but not before a shared pixel
    rw [firstFrom_le_iff hx hx', firstFrom_le_iff hy hy', ← Nat.not_le, ← Nat.not_le,
      firstFrom_le_iff hx hx', firstFrom_le_iff hy hy', Nat.not_le, Nat.not_le]
  | text style origin color words =>
    refine h.paint color ?_
    intro x hx y hy
    have hx' : x < large.width := Nat.lt_of_lt_of_le hx h.width_le
    have hy' : y < large.height := Nat.lt_of_lt_of_le hy h.height_le
    unfold TextStyle.footprint
    rw [mem_clip, mem_clip]
    exact ⟨fun hin => ⟨hin.1, hx', hy'⟩, fun hin => ⟨hin.1, hx, hy⟩⟩

theorem foldl_draw (h : CornerOf small large) (hw : large.width ≤ longestLine)
    (hh : large.height ≤ longestLine) (marks : List Mark) :
    CornerOf (marks.foldl Mark.draw small) (marks.foldl Mark.draw large) := by
  induction marks generalizing small large with
  | nil => exact h
  | cons m rest ih =>
    refine ih (h.draw hw hh m) ?_ ?_
    · rwa [width_draw]
    · rwa [height_draw]

end CornerOf

end Picture

/-! ## Documents -/

/-- **A smaller picture of a document is the top left corner of a larger one.** Painting the
document fails on both blank pictures with one fault, or it succeeds on both, and then the pixels
that they share have the same colours. -/
theorem Document.paint_blank_corner (d : Document) (style : TextStyle) {w₁ h₁ w₂ h₂ : Nat}
    (hw : w₁ ≤ w₂) (hw₂ : w₂ ≤ 2147483647) (hh : h₁ ≤ h₂) (hh₂ : h₂ ≤ 2147483647) :
    match d.paint style (Picture.blank w₁ h₁), d.paint style (Picture.blank w₂ h₂) with
    | .ok () small, .ok () large =>
      (small.width = w₁ ∧ small.height = h₁) ∧ (large.width = w₂ ∧ large.height = h₂) ∧
        ∀ x < w₁, ∀ y < h₁, small.pixel? (x, y) = large.pixel? (x, y)
    | .error fault _, .error fault' _ => fault = fault'
    | _, _ => False := by
  cases h : d.widgets.findSome? d.fault? with
  | some fault =>
    rw [d.paint_of_fault style _ h, d.paint_of_fault style _ h]
  | none =>
    rw [d.paint_of_sound style _ h, d.paint_of_sound style _ h]
    have small := Picture.size_foldl_draw (d.marks style) (Picture.blank w₁ h₁)
    have large := Picture.size_foldl_draw (d.marks style) (Picture.blank w₂ h₂)
    have corner := (Picture.CornerOf.blank hw hh).foldl_draw hw₂ hh₂ (d.marks style)
    refine ⟨small, large, ?_⟩
    intro x hx y hy
    exact corner.pixel?_eq x (by rw [small.1]; exact hx) y (by rw [small.2]; exact hy)

/-- A gauge without end that begins half a pixel before the pictures do. -/
theorem Document.paint_blank_corner_endless :
    let d : Document :=
      ⟨[.gauge ⟨⟨-.ofDecimal 5 1, 0⟩, ⟨.infinite false, 3⟩, "load"⟩], [("load", .number 0)]⟩
    ∃ small large, d.paint ⟨.inkless, 8⟩ (Picture.blank 2 2) = .ok () small ∧
      d.paint ⟨.inkless, 8⟩ (Picture.blank 3 4) = .ok () large ∧
      small.pixel? (1, 1) = large.pixel? (1, 1) := by
  intro d
  have sound : d.widgets.findSome? d.fault? = none := rfl
  have corner := @Document.paint_blank_corner d ⟨.inkless, 8⟩ 2 2 3 4 (by decide) (by decide)
    (by decide) (by decide)
  rw [d.paint_of_sound _ _ sound, d.paint_of_sound _ _ sound] at corner
  refine ⟨_, _, d.paint_of_sound _ _ sound, d.paint_of_sound _ _ sound, ?_⟩
  exact corner.2.2 1 (by decide) 1 (by decide)

end StatusPanel
