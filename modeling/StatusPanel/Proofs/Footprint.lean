import StatusPanel.Picture.Footprint

/-!
# Footprints, pixel by pixel

Which pixels belong to the footprint of a mark. On a picture whose columns and rows can be numbered
by 32-bit integers a rectangle of pixels is never cut short by its number format, so a filled
rectangle covers exactly the columns and rows between its edges (`mem_footprint`).
-/

namespace StatusPanel

/-- The most columns or rows that 32-bit integers can number. -/
def longestLine : Nat := 2147483647

theorem mem_clip {places : List (Int × Int)} {x y width height : Nat} :
    (x, y) ∈ clip places width height ↔
      ((x : Int), (y : Int)) ∈ places ∧ x < width ∧ y < height := by
  simp only [clip, List.mem_filterMap]
  constructor
  · rintro ⟨⟨a, b⟩, hmem, heq⟩
    dsimp only at heq
    split at heq
    · cases heq
      rw [Int.toNat_of_nonneg (by omega), Int.toNat_of_nonneg (by omega)]
      exact ⟨hmem, by omega, by omega⟩
    · cases heq
  · rintro ⟨hmem, hx, hy⟩
    refine ⟨(x, y), hmem, ?_⟩
    dsimp only
    rw [if_pos (by omega)]
    rfl

theorem PixelRect.mem_places {r : PixelRect} {x y : Int} :
    (x, y) ∈ r.places ↔
      r.left.toInt ≤ x ∧ x < r.left.toInt + r.width.toNat ∧
        r.top.toInt ≤ y ∧ y < r.top.toInt + r.height.toNat := by
  simp only [places, List.mem_flatMap, List.mem_map, List.mem_range, Prod.mk.injEq]
  constructor
  · rintro ⟨row, hrow, column, hcolumn, rfl, rfl⟩
    omega
  · rintro ⟨hl, hr, ht, hb⟩
    exact ⟨(y - r.top.toInt).toNat, by omega, (x - r.left.toInt).toNat, by omega, by omega,
      by omega⟩

theorem firstFrom_le (edge : Single) (limit : Nat) : firstFrom edge limit ≤ limit :=
  Nat.min_le_left ..

/-- A pixel that two lines share lies on the same side of an edge in both. -/
theorem firstFrom_le_iff {edge : Single} {x limit limit' : Nat} (h : x < limit)
    (h' : x < limit') : firstFrom edge limit ≤ x ↔ firstFrom edge limit' ≤ x := by
  unfold firstFrom
  omega

/-- What the pixels of a rectangle are: the columns and the rows between its edges, at least one of
each. On a picture of this size no edge and no extent wraps around. -/
theorem Rect.of_pixelRect? {r : Rect} {area : PixelRect} {width height : Nat}
    (hw : width ≤ longestLine) (hh : height ≤ longestLine)
    (h : r.pixelRect? width height = some area) :
    r.isEmpty = false ∧
      (area.left.toInt = firstFrom r.x width ∧ 0 < area.width.toNat ∧
        area.left.toInt + area.width.toNat = firstFrom r.right width) ∧
      area.top.toInt = firstFrom r.y height ∧ 0 < area.height.toNat ∧
        area.top.toInt + area.height.toNat = firstFrom r.bottom height := by
  have hl := firstFrom_le r.x width
  have hr := firstFrom_le r.right width
  have ht := firstFrom_le r.y height
  have hb := firstFrom_le r.bottom height
  unfold longestLine at hw hh
  unfold pixelRect? at h
  split at h
  · cases h
  · next hempty =>
    dsimp only at h
    split at h
    · cases h
    · next hsome =>
      cases h
      dsimp only
      rw [Int32.toInt_ofNat_of_lt (by omega), Int32.toInt_ofNat_of_lt (by omega),
        UInt32.toNat_ofNat_of_lt' (by simp only [UInt32.size]; omega),
        UInt32.toNat_ofNat_of_lt' (by simp only [UInt32.size]; omega)]
      exact ⟨Bool.eq_false_iff.2 hempty, by omega, by omega⟩

/-- A filled rectangle covers the columns and the rows between its edges. -/
theorem Rect.mem_footprint {r : Rect} {x y width height : Nat} (hw : width ≤ longestLine)
    (hh : height ≤ longestLine) :
    (x, y) ∈ r.footprint width height ↔
      r.isEmpty = false ∧
        (firstFrom r.x width ≤ x ∧ x < firstFrom r.right width) ∧
        firstFrom r.y height ≤ y ∧ y < firstFrom r.bottom height := by
  unfold footprint
  cases h : r.pixelRect? width height with
  | none =>
    simp only [List.not_mem_nil, false_iff]
    rintro ⟨hempty, hcolumn, hrow⟩
    unfold pixelRect? at h
    rw [hempty] at h
    simp only [Bool.false_eq_true, if_false, ite_eq_left_iff] at h
    exact nomatch h (by omega)
  | some area =>
    have hr := firstFrom_le r.right width
    have hb := firstFrom_le r.bottom height
    obtain ⟨hempty, hcolumns, hrows⟩ := of_pixelRect? hw hh h
    simp only [mem_clip, PixelRect.mem_places, hempty, true_and]
    omega

/-! ## Marks keep the size -/

namespace Picture

@[simp] theorem width_draw (p : Picture) (m : Mark) : (m.draw p).width = p.width := by
  cases m with
  | fill rect color => exact width_paint ..
  | text style origin color words => exact width_paint ..

@[simp] theorem height_draw (p : Picture) (m : Mark) : (m.draw p).height = p.height := by
  cases m with
  | fill rect color => exact height_paint ..
  | text style origin color words => exact height_paint ..

theorem size_foldl_draw (marks : List Mark) (p : Picture) :
    (marks.foldl Mark.draw p).width = p.width ∧ (marks.foldl Mark.draw p).height = p.height := by
  induction marks generalizing p with
  | nil => exact ⟨rfl, rfl⟩
  | cons m rest ih =>
    obtain ⟨hw, hh⟩ := ih (m.draw p)
    exact ⟨hw.trans (width_draw p m), hh.trans (height_draw p m)⟩

end Picture

end StatusPanel
