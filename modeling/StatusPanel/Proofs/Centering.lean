import StatusPanel.Proofs.ExactValues
import StatusPanel.Widget.Placement

/-!
# Centering text

Where a centered text goes in a space that is wider than the text. The margin is computed with
rounding, halved, added and cut to whole pixels; still it is never less than half of what is left
over in whole pixels, and hardly more than half of it (`Floating.exists_centered`). So between whole
pixels the margins on the two sides differ by one pixel at most, but beside a text that ends within
a pixel they may differ by almost two (`Label.place_centered_margins`). A centered text is moved
down from its baseline, while its plate reaches up from there, so it stays on the plate only if
there is nothing to be moved (`Label.place_rows_on_plate_iff`).
-/

namespace StatusPanel

namespace Floating

/-- A moderate result: where it is, and which whole numbers it does not pass. -/
theorem Rounds.exists_value? {x : Single} {q : ℚ} (h : x.Rounds q) {k : Nat} (hk : k ≤ 24)
    (hq₀ : 0 ≤ q) (hq : q ≤ 2 ^ k) :
    ∃ v, x.value? = some v ∧ v ≤ 2 ^ k ∧ v ≤ q + 2 ^ k / 2 ^ 25 ∧
      ∀ m : Nat, (m : ℚ) ≤ q → (m : ℚ) ≤ v := by
  have hle : 2 ^ k ≤ 2 ^ 24 := Nat.pow_le_pow_right (by decide) hk
  have hhas : Format.single.Has (2 ^ k) := by
    have hpow := Format.single_has_nat hle
    rwa [Nat.cast_pow, Nat.cast_ofNat] at hpow
  have habs : |q| ≤ 2 ^ k := by rwa [abs_of_nonneg hq₀]
  have herror := abs_le.1 (Format.abs_single_rounded_sub_le k habs)
  refine ⟨_, h.value? hhas habs, Format.rounded_le hhas.onGrid hq, by linarith, fun m hm => ?_⟩
  have hm' : m ≤ 2 ^ k := by exact_mod_cast hm.trans hq
  exact Format.le_rounded (Format.single_has_nat (hm'.trans hle)).onGrid hm

variable {o w a : Single} {origin width : ℤ} {used : ℚ}

/-- **A margin in whole pixels.** Rounding does not make it smaller, and larger only where a whole
pixel is almost reached. -/
theorem exists_centered (ho : o.value? = some (origin : ℚ)) (hw : w.value? = some (width : ℚ))
    (ha : a.value? = some used) (horigin : 0 ≤ origin ∧ origin < 2 ^ 20) (hwidth : width < 2 ^ 20)
    (hused : 0 ≤ used ∧ used ≤ width) :
    ∃ place : ℤ, (o + (w - a) / 2).trunc.value? = some (place : ℚ) ∧
      origin + ⌊(width - used) / 2⌋ ≤ place ∧
      2 * ((place : ℚ) - origin) ≤ width - used + 1 / 4 := by
  obtain ⟨first, rfl⟩ := Int.eq_ofNat_of_zero_le horigin.1
  have ho₁ : (first : ℚ) ≤ 2 ^ 20 := by exact_mod_cast horigin.2.le
  have hw₁ : (width : ℚ) ≤ 2 ^ 20 := by exact_mod_cast hwidth.le
  obtain ⟨hused₀, hused₁⟩ := hused
  rw [Int.cast_natCast] at ho ⊢
  have hrounds := sub_rounds hw ha
  have hleft₀ : 0 ≤ (width : ℚ) - used := by linarith
  have hleft₁ : (width : ℚ) - used ≤ 2 ^ 20 := by linarith
  generalize (width : ℚ) - used = left at hrounds hleft₀ hleft₁ ⊢
  have hmargin₀ : 0 ≤ ⌊left / 2⌋ := Int.floor_nonneg.2 (div_nonneg hleft₀ zero_le_two)
  obtain ⟨margin, hmargin⟩ := Int.eq_ofNat_of_zero_le hmargin₀
  have hmargin₁ : ((2 * margin : Nat) : ℚ) ≤ left := by
    have hfloor := Int.floor_le (left / 2)
    rw [hmargin, Int.cast_natCast] at hfloor
    push_cast
    linarith
  -- the margin is a whole number, so none of the three roundings falls below it
  obtain ⟨d, hd, hd₁, hderror, hdmargin⟩ := hrounds.exists_value? (by decide) hleft₀ hleft₁
  have hdmargin := hdmargin _ hmargin₁
  push_cast at hdmargin
  have hd₀ : 0 ≤ d := by linarith [Nat.cast_nonneg (α := ℚ) margin]
  have hhalf := div_rounds hd (value?_literal 2 (by decide)) (by norm_num)
  rw [Int.cast_ofNat] at hhalf
  obtain ⟨p, hp, hp₁, hperror, hpmargin⟩ :=
    hhalf.exists_value? (k := 19) (by decide) (by linarith) (by linarith)
  have hpmargin := hpmargin margin (by linarith)
  have hp₀ : 0 ≤ p := (Nat.cast_nonneg margin).trans hpmargin
  obtain ⟨s, hs, hs₁, hserror, hsmargin⟩ := (add_rounds ho hp).exists_value? (k := 21) (by decide)
    (add_nonneg (Nat.cast_nonneg first) hp₀) (by linarith)
  have hsmargin := hsmargin (first + margin) (by push_cast; linarith)
  have hs₀ : 0 ≤ s := (Nat.cast_nonneg _).trans hsmargin
  have hfloor := Int.floor_le s
  have htrunc := trunc_rounds hs
  rw [truncated_of_nonneg hs₀] at htrunc
  refine ⟨⌊s⌋, htrunc.value?_of_has (Format.single_has_int ?_), ?_, ?_⟩
  · have hfloor₀ := Int.floor_nonneg.2 hs₀
    have hfloor₁ : ⌊s⌋ ≤ 2 ^ 21 := by exact_mod_cast hfloor.trans hs₁
    omega
  · rw [hmargin]
    exact Int.le_floor.2 (by exact_mod_cast hsmargin)
  · norm_num at hderror hperror hserror ⊢
    linarith

/-- A whole margin is half of what is left over, without its fraction. -/
theorem value?_centered {whole : ℤ} (ho : o.value? = some (origin : ℚ))
    (hw : w.value? = some (width : ℚ)) (ha : a.value? = some (whole : ℚ))
    (horigin : 0 ≤ origin ∧ origin < 2 ^ 20) (hwidth : width < 2 ^ 20)
    (hwhole : 0 ≤ whole ∧ whole ≤ width) :
    (o + (w - a) / 2).trunc.value? = some ((origin + (width - whole) / 2 : ℤ) : ℚ) := by
  obtain ⟨place, hplace, hlow, hhigh⟩ := exists_centered ho hw ha horigin hwidth
    ⟨by exact_mod_cast hwhole.1, by exact_mod_cast hwhole.2⟩
  have hfloor : ⌊((width : ℚ) - whole) / 2⌋ = (width - whole) / 2 := by
    have h := Rat.floor_intCast_div_natCast (width - whole) 2
    push_cast at h
    exact h
  have hhigh' : 2 * (place - origin) ≤ width - whole := by
    have hquarter : (2 * (place - origin) : ℤ) < ((width - whole + 1 : ℤ) : ℚ) := by
      push_cast
      linarith
    have := Int.cast_lt.1 hquarter
    omega
  rw [hplace]
  congr 2
  rw [hfloor] at hlow
  omega

end Floating

namespace Label

/-- A label lies on whole pixels, with a size of its own or none. -/
structure OnPixels (l : Label) (x y w h : ℤ) : Prop where
  x_eq : l.origin.x.value? = some (x : ℚ)
  y_eq : l.origin.y.value? = some (y : ℚ)
  width_eq : l.size.width.value? = some (w : ℚ)
  height_eq : l.size.height.value? = some (h : ℚ)
  x_bounds : 0 ≤ x ∧ x < 2 ^ 20
  y_bounds : 0 ≤ y ∧ y < 2 ^ 20
  width_lt : w < 2 ^ 20
  height_lt : h < 2 ^ 20

variable {l : Label} {e : Extents} {x y w h : ℤ}

/-- A label with a size of its own is placed in that. -/
theorem OnPixels.place_eq (hl : l.OnPixels x y w h) (hw : w ≠ 0) (hh : h ≠ 0) (e : Extents) :
    l.place e =
      { size := l.size
        plate := if l.inverted then
            some ⟨l.origin.x, l.origin.y - l.size.height, l.size.width, l.size.height⟩
          else none
        origin := if l.centered then
            ⟨(l.origin.x + (l.size.width - e.advance) / 2).trunc,
             (l.origin.y + (l.size.height - e.height) / 2).trunc⟩
          else l.origin
        color := if l.centered then .paper else .ink } := by
  have hzero := Floating.value?_literal 0 (by decide)
  have hwidth : l.size.width.equal 0 = false := by
    rw [← Bool.not_eq_true, Floating.equal_iff_of_value? hl.width_eq hzero]
    exact_mod_cast hw
  have hheight : l.size.height.equal 0 = false := by
    rw [← Bool.not_eq_true, Floating.equal_iff_of_value? hl.height_eq hzero]
    exact_mod_cast hh
  simp only [place, hwidth, hheight, Bool.false_eq_true, if_false]

end Label

/-- **The margins of centered text.** The margin on the left is never larger than that on the right
by more than a quarter of a pixel, nor smaller by two pixels. The two differ by one pixel at most
where what is left over, whatever its fraction, is at most one pixel more than an even number of
pixels; if it is whole, it always is. Above and below the text they differ by one pixel at most. -/
theorem Label.place_centered_margins {l : Label} {e : Extents} {x y w h height : ℤ} {advance : ℚ}
    (pixels : l.OnPixels x y w h) (wide : w ≠ 0) (high : h ≠ 0) (centered : l.centered = true)
    (advance_eq : e.advance.value? = some advance) (advance_fits : 0 ≤ advance ∧ advance ≤ w)
    (height_eq : e.height.value? = some (height : ℚ)) (height_fits : 0 ≤ height ∧ height ≤ h) :
    ∃ px py : ℤ, (l.place e).origin.x.value? = some (px : ℚ) ∧
      (l.place e).origin.y.value? = some (py : ℚ) ∧
      let left : ℚ := px - x
      let right : ℚ := w - advance - left
      let top : ℚ := py - y
      let bottom : ℚ := h - height - top
      left - right ≤ 1 / 4 ∧ right - left < 2 ∧
      (∀ m : ℤ, 2 * (m : ℚ) ≤ w - advance → w - advance ≤ 2 * m + 1 → |left - right| ≤ 1) ∧
      |top - bottom| ≤ 1 := by
  obtain ⟨px, hpx, hlow, hhigh⟩ := Floating.exists_centered pixels.x_eq pixels.width_eq advance_eq
    pixels.x_bounds pixels.width_lt advance_fits
  have hpy := Floating.value?_centered pixels.y_eq pixels.height_eq height_eq pixels.y_bounds
    pixels.height_lt height_fits
  rw [pixels.place_eq wide high, if_pos centered]
  refine ⟨px, _, hpx, hpy, ?_⟩
  intro left right top bottom
  have hdifference : left - right = 2 * ((px : ℚ) - x) - (w - advance) := by
    show ((px : ℚ) - x) - (w - advance - (px - x)) = _
    ring
  have hlow' : ((⌊((w : ℚ) - advance) / 2⌋ : ℤ) : ℚ) ≤ px - x := by
    have : ⌊((w : ℚ) - advance) / 2⌋ ≤ px - x := by omega
    exact_mod_cast this
  have hfloor := Int.lt_floor_add_one (((w : ℚ) - advance) / 2)
  rw [hdifference]
  refine ⟨by linarith, by linarith, fun m hm hm' => ?_, ?_⟩
  · have hmargin : (m : ℚ) ≤ (⌊((w : ℚ) - advance) / 2⌋ : ℤ) := by
      exact_mod_cast Int.le_floor.2 (by linarith)
    rw [abs_le]
    constructor <;> linarith
  · have hwhole : top - bottom = (2 * ((h - height) / 2) - (h - height) : ℤ) := by
      show (((y + (h - height) / 2 : ℤ) : ℚ) - y) -
        (h - height - (((y + (h - height) / 2 : ℤ) : ℚ) - y)) = _
      push_cast
      ring
    rw [hwhole, ← Int.cast_abs]
    have : |2 * ((h - height) / 2) - (h - height)| ≤ 1 := by
      rw [abs_le]
      omega
    exact_mod_cast this

/-- Of ten pixels and three quarters five are on the left. -/
theorem Label.place_centered_margins_odd :
    let l : Label := { origin := ⟨7, 40⟩, size := ⟨51, 12⟩, centered := true, key := "" }
    let e : Extents := { advance := 161 / 4, height := 7 }
    ∃ px py : ℤ, (l.place e).origin.x.value? = some (px : ℚ) ∧
      (l.place e).origin.y.value? = some (py : ℚ) ∧
      |((px : ℚ) - 7) - (51 - 161 / 4 - (px - 7))| ≤ 1 ∧
      |((py : ℚ) - 40) - (12 - 7 - (py - 40))| ≤ 1 := by
  intro l e
  have pixels : l.OnPixels 7 40 51 12 := by
    constructor <;> decide +kernel
  have hadvance : e.advance.value? = some (161 / 4) := by decide +kernel
  have hheight : e.height.value? = some ((7 : ℤ) : ℚ) := by decide +kernel
  obtain ⟨px, py, hpx, hpy, -, -, hmargins, hrows⟩ := place_centered_margins pixels (by decide)
    (by decide) rfl hadvance (by norm_num) hheight (by norm_num)
  refine ⟨px, py, hpx, hpy, ?_, ?_⟩
  · simpa using hmargins 5 (by norm_num) (by norm_num)
  · simpa using hrows

/-- Of a pixel and three quarters all is on the right. -/
theorem Label.place_centered_apart :
    let l : Label := { origin := ⟨0, 0⟩, size := ⟨42, 8⟩, centered := true, key := "" }
    let e : Extents :=
      { xBearing := 0, yBearing := -8, width := 40, height := 8, advance := 161 / 4 }
    l.origin.x.value? = some 0 ∧ l.size.width.value? = some 42 ∧
      e.advance.value? = some (161 / 4) ∧
      ∃ px : ℚ, (l.place e).origin.x.value? = some px ∧
        let left := px - 0
        let right := 42 - 161 / 4 - left
        left = 0 ∧ right = 7 / 4 ∧ ¬|left - right| ≤ 1 := by
  intro l e
  refine ⟨by decide +kernel, by decide +kernel, by decide +kernel, 0, by decide +kernel, ?_⟩
  norm_num

/-- **Where the plate of a centered text is missed.** The ink of the text has the rows from its
bearing to the baseline, and the plate ends at the row that the baseline would have if the text were
not centered. Centering moves the text down by half of the height that is left over, and so many
rows come to lie below the plate. -/
theorem Label.place_rows_on_plate_iff {l : Label} {e : Extents} {x y w h height : ℤ}
    (pixels : l.OnPixels x y w h) (wide : w ≠ 0) (centered : l.centered = true)
    (inverted : l.inverted = true) (height_eq : e.height.value? = some (height : ℚ))
    (height_fits : 0 < height ∧ height ≤ h)
    (on_baseline : e.yBearing.value? = some ((-height : ℤ) : ℚ)) :
    ∃ (plate : Rect) (first last top bottom : ℤ), (l.place e).plate = some plate ∧
      ((l.place e).origin.y + e.yBearing).value? = some (first : ℚ) ∧
      ((l.place e).origin.y + e.yBearing + e.height).value? = some (last : ℚ) ∧
      plate.y.value? = some (top : ℚ) ∧ plate.bottom.value? = some (bottom : ℚ) ∧
      top ≤ first ∧ last - bottom = (h - height) / 2 ∧
      (top ≤ first ∧ last ≤ bottom ↔ h - height < 2) := by
  obtain ⟨hy₀, hy₁⟩ := pixels.y_bounds
  have hh₁ := pixels.height_lt
  have hpy := Floating.value?_centered pixels.y_eq pixels.height_eq height_eq pixels.y_bounds
    hh₁ ⟨height_fits.1.le, height_fits.2⟩
  have hfirst := Floating.value?_add_int hpy on_baseline (by omega)
  have hlast := Floating.value?_add_int hfirst height_eq (by omega)
  have htop := Floating.value?_sub_int pixels.y_eq pixels.height_eq (by omega)
  have hbottom := Floating.value?_add_int htop pixels.height_eq (by omega)
  rw [pixels.place_eq wide (by omega), if_pos centered, if_pos inverted]
  exact ⟨_, _, _, _, _, rfl, hfirst, hlast, htop, hbottom, by omega, by omega, by omega⟩

/-- A text that is one pixel less high than its plate stays on it. -/
theorem Label.place_rows_on_plate_iff_full :
    let l : Label :=
      { origin := ⟨10, 30⟩, size := ⟨50, 8⟩, centered := true, inverted := true, key := "" }
    let e : Extents := { yBearing := -7, height := 7, advance := 40 }
    ∃ (plate : Rect) (first last top bottom : ℤ), (l.place e).plate = some plate ∧
      ((l.place e).origin.y + e.yBearing).value? = some (first : ℚ) ∧
      ((l.place e).origin.y + e.yBearing + e.height).value? = some (last : ℚ) ∧
      plate.y.value? = some (top : ℚ) ∧ plate.bottom.value? = some (bottom : ℚ) ∧
      top ≤ first ∧ last ≤ bottom := by
  intro l e
  have pixels : l.OnPixels 10 30 50 8 := by
    constructor <;> decide +kernel
  have hheight : e.height.value? = some ((7 : ℤ) : ℚ) := by decide +kernel
  obtain ⟨plate, first, last, top, bottom, hplate, hfirst, hlast, htop, hbottom, -, -, hiff⟩ :=
    place_rows_on_plate_iff pixels (by decide) rfl rfl hheight (by decide) (by decide +kernel)
  exact ⟨plate, first, last, top, bottom, hplate, hfirst, hlast, htop, hbottom,
    hiff.2 (by decide)⟩

/-- A text that is two pixels less high than its plate has its last row below it. -/
theorem Label.place_below_plate :
    let l : Label :=
      { origin := ⟨10, 30⟩, size := ⟨50, 9⟩, centered := true, inverted := true, key := "" }
    let e : Extents :=
      { xBearing := 0, yBearing := -7, width := 40, height := 7, advance := 40 }
    ∃ plate, (l.place e).plate = some plate ∧ plate.y.value? = some 21 ∧
      plate.bottom.value? = some 30 ∧
      ((l.place e).origin.y + e.yBearing).value? = some 24 ∧
      ((l.place e).origin.y + e.yBearing + e.height).value? = some 31 ∧
      ¬((21 : ℚ) ≤ 24 ∧ (31 : ℚ) ≤ 30) := by
  intro l e
  exact ⟨_, rfl, by decide +kernel, by decide +kernel, by decide +kernel, by decide +kernel,
    by norm_num⟩

end StatusPanel
