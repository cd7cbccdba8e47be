import StatusPanel.Proofs.PixelCentres

/-!
# The columns of a gauge

A gauge on whole pixels fills whole columns, although what is blank of it is computed in five
rounded steps. Its blank part ends at the border for every progress (`spans_blank_iff`), since the
rounding errors of the two numbers that make up its far edge stay below a quarter of a pixel. It
starts at a column (`firstBlank`) that the progress alone moves, never to the left as it grows
(`firstBlank_mono`), and that is within a pixel of where exact arithmetic would have it
(`abs_firstBlank_sub_le`).
-/

namespace StatusPanel

namespace Floating

variable {f : Format} {x y : Floating f} {v : ℚ}

/-! ## Shares -/

/-- The number of `[0, 1]` nearest to `x`; NaN counts as zero. -/
def share : Floating f → ℚ
  | .nan => 0
  | .infinite s => if s then 0 else 1
  | .finite s n _ => max 0 (min 1 (signed s n / 2 ^ f.scale))

theorem share_of_value? (h : x.value? = some v) : x.share = max 0 (min 1 v) := by
  obtain ⟨s, n, hn, rfl, rfl⟩ := exists_finite_of_value? h
  rfl

theorem share_nonneg (x : Floating f) : 0 ≤ x.share := by
  cases x with
  | nan => exact le_refl (0 : ℚ)
  | infinite s => cases s <;> simp [share]
  | finite s n hn => exact le_max_left ..

theorem share_le_one (x : Floating f) : x.share ≤ 1 := by
  cases x with
  | nan => exact zero_le_one
  | infinite s => cases s <;> simp [share]
  | finite s n hn => exact max_le zero_le_one (min_le_left ..)

theorem share_of_atMost (h : x.AtMost 0) : x.share = 0 := by
  cases x with
  | nan => rfl
  | infinite s =>
    rw [show s = true from h]
    rfl
  | finite s n hn => exact max_eq_left ((min_le_right ..).trans h)

theorem share_of_atLeast (h : x.AtLeast 1) : x.share = 1 := by
  cases x with
  | nan => exact h.elim
  | infinite s =>
    rw [show s = false from h]
    rfl
  | finite s n hn =>
    show max 0 (min 1 _) = _
    rw [min_eq_left h, max_eq_right zero_le_one]

/-- A greater number has no lesser share. -/
theorem share_mono (h : x.lessEq y = true) : x.share ≤ y.share := by
  cases x with
  | nan => cases h
  | infinite s =>
    cases s with
    | true => exact share_nonneg y
    | false =>
      -- nothing but infinity is at least infinity
      cases y with
      | nan => cases h
      | infinite t =>
        cases t with
        | true => cases h
        | false => exact le_rfl
      | finite t n hn => cases h
  | finite s m hm =>
    cases y with
    | nan => cases h
    | infinite t =>
      cases t with
      | true => cases h
      | false => exact share_le_one _
    | finite t n hn =>
      have hle := (lessEq_iff_of_value? (x := finite s m hm) (y := finite t n hn) rfl rfl).1 h
      exact max_le_max le_rfl (min_le_min le_rfl hle)

theorem share_eq_zero {progress : Double} (h : progress.lessEq 0 = true ∨ progress.isNan = true) :
    progress.share = 0 := by
  rcases h with hle | hnan
  · exact share_of_atMost (atMost_of_lessEq (by decide +kernel) hle)
  · cases progress with
    | nan => rfl
    | infinite s => cases hnan
    | finite s n hn => cases hnan

theorem share_eq_one {progress : Double} (h : lessEq 1 progress = true) : progress.share = 1 :=
  share_of_atLeast (atLeast_of_lessEq (by decide +kernel) h)

/-- Rounding to another format rounds the share. -/
theorem share_convert (p : Double) :
    (p.convert : Single).share = Format.single.rounded p.share := by
  have hzero : Format.single.Has 0 := ⟨0, value?_literal 0 (by decide)⟩
  have hone : Format.single.Has 1 := ⟨1, value?_literal 1 (by decide)⟩
  cases p with
  | nan => exact hzero.onGrid.symm
  | infinite s =>
    cases s with
    | true => exact hzero.onGrid.symm
    | false => exact hone.onGrid.symm
  | finite s n hn =>
    have hrounds := convert_rounds (g := .single) (x := finite s n hn) rfl
    rw [share_of_value? (x := finite s n hn) rfl]
    generalize (signed s n : ℚ) / 2 ^ Format.double.scale = v at hrounds
    rcases le_total v 0 with hlow | hlow
    · rw [share_of_atMost (hrounds.atMost hzero hlow), max_eq_left ((min_le_right ..).trans hlow)]
      exact hzero.onGrid.symm
    · rcases le_total v 1 with hhigh | hhigh
      · have hvalue := hrounds.value? hone (by rwa [abs_of_nonneg hlow])
        rw [share_of_value? hvalue, min_eq_right hhigh, max_eq_right hlow,
          min_eq_right (Format.single_rounded_le_one hhigh),
          max_eq_right (Format.rounded_nonneg hlow)]
      · rw [share_of_atLeast (hrounds.atLeast hone hhigh), min_eq_left hhigh,
          max_eq_right zero_le_one]
        exact hone.onGrid.symm

/-- The share of a gauge that is used up is the share of its progress. -/
theorem value?_usedShare (progress : Single) :
    (usedShare progress).value? = some progress.share := by
  cases progress with
  | nan => exact value?_literal 0 (by decide)
  | infinite s => cases s <;> decide +kernel
  | finite s n hn =>
    have hvalue : (finite s n hn : Single).value? = some _ := rfl
    have hzero := value?_literal 0 (by decide)
    have hone := value?_literal 1 (by decide)
    rw [share_of_value? hvalue]
    show (clamp (finite s n hn) 0 1).value? = _
    unfold clamp
    split
    · next hlow =>
      rw [less_iff_of_value? hvalue hzero, Int.cast_zero] at hlow
      rw [hzero, Int.cast_zero, max_eq_left ((min_le_right ..).trans hlow.le)]
    · next hlow =>
      rw [less_iff_of_value? hvalue hzero, Int.cast_zero, not_lt] at hlow
      split
      · next hhigh =>
        rw [less_iff_of_value? hone hvalue, Int.cast_one] at hhigh
        rw [hone, Int.cast_one, min_eq_left hhigh.le, max_eq_right zero_le_one]
      · next hhigh =>
        rw [less_iff_of_value? hone hvalue, Int.cast_one, not_lt] at hhigh
        rw [hvalue, min_eq_right hhigh, max_eq_right hlow]

end Floating

namespace Gauge

/-! ## Where the blank part is -/

/-- How wide the blank part of a gauge is if a share of the gauge is used up. -/
def blankWidth (w : ℤ) (share : ℚ) : ℚ :=
  Format.single.rounded ((w - 2) * Format.single.rounded (1 - share))

/-- Where the blank part of a gauge starts. -/
def blankStart (x w : ℤ) (share : ℚ) : ℚ :=
  Format.single.rounded (x + w - 1 - blankWidth w share)

/-- The first column of the blank part. -/
def firstBlank (x w : ℤ) (progress : Double) : ℤ :=
  ⌈blankStart x w (progress.convert : Single).share - 1 / 2⌉

/-- A place and a width that leave single precision enough room for fractions of a pixel. -/
structure Moderate (x w : ℤ) : Prop where
  place : |x| ≤ 2 ^ 20
  two_le_width : 2 ≤ w
  width_le : w ≤ 2 ^ 20

theorem blankWidth_one (w : ℤ) : blankWidth w 1 = 0 := by
  rw [blankWidth, sub_self, Format.rounded_zero, mul_zero, Format.rounded_zero]

theorem ceil_sub_half (z : ℤ) : ⌈(z : ℚ) - 1 / 2⌉ = z := by
  rw [Int.ceil_eq_iff]
  constructor <;> linarith

/-- What is inside a border of one pixel lies on whole pixels. -/
theorem value?_inside {a b : Single} {m n : ℤ} (ha : a.value? = some (m : ℚ))
    (hb : b.value? = some (n : ℚ)) (hm : |m| ≤ 2 ^ 20) (hn₁ : 1 ≤ n) (hn₂ : n ≤ 2 ^ 20) :
    (a + 1).value? = some ((m + 1 : ℤ) : ℚ) ∧
      (a + 1 + (b - 2)).value? = some ((m + 1 + (n - 2) : ℤ) : ℚ) := by
  obtain ⟨hm₁, hm₂⟩ := abs_le.1 hm
  have hfirst : (a + 1).value? = some ((m + 1 : ℤ) : ℚ) :=
    Floating.value?_add_int ha (Floating.value?_literal 1 (by decide)) (by omega)
  have hinner : (b - 2).value? = some ((n - 2 : ℤ) : ℚ) :=
    Floating.value?_sub_int hb (Floating.value?_literal 2 (by decide)) (by omega)
  exact ⟨hfirst, Floating.value?_add_int hfirst hinner (by omega)⟩

section

variable {x w : ℤ} (h : Moderate x w)
include h

theorem Moderate.bounds :
    (-2 ^ 20 ≤ (x : ℚ) ∧ (x : ℚ) ≤ 2 ^ 20) ∧ (2 : ℚ) ≤ w ∧ (w : ℚ) ≤ 2 ^ 20 := by
  obtain ⟨hlow, hhigh⟩ := abs_le.1 h.place
  exact ⟨⟨by exact_mod_cast hlow, by exact_mod_cast hhigh⟩, by exact_mod_cast h.two_le_width,
    by exact_mod_cast h.width_le⟩

theorem Moderate.onGrid_inner : Format.single.OnGrid (w - 2) := by
  have hlow := h.two_le_width
  have hhigh := h.width_le
  have hint := (Format.single_has_int (m := w - 2) (by omega)).onGrid
  exact_mod_cast hint

theorem Moderate.onGrid_first : Format.single.OnGrid (x + 1) := by
  obtain ⟨hlow, hhigh⟩ := abs_le.1 h.place
  have hint := (Format.single_has_int (m := x + 1) (by omega)).onGrid
  exact_mod_cast hint

theorem Moderate.onGrid_border : Format.single.OnGrid (x + w - 1) := by
  obtain ⟨hlow, hhigh⟩ := abs_le.1 h.place
  have hwlow := h.two_le_width
  have hwhigh := h.width_le
  have hint := (Format.single_has_int (m := x + w - 1) (by omega)).onGrid
  exact_mod_cast hint

variable {share share' : ℚ}

theorem blankWidth_nonneg (hshare : share ≤ 1) : 0 ≤ blankWidth w share := by
  obtain ⟨-, hw, -⟩ := h.bounds
  exact Format.rounded_nonneg
    (mul_nonneg (by linarith) (Format.rounded_nonneg (by linarith)))

theorem blankWidth_anti (hshare : share ≤ share') : blankWidth w share' ≤ blankWidth w share := by
  obtain ⟨-, hw, -⟩ := h.bounds
  have hremaining : Format.single.rounded (1 - share') ≤ Format.single.rounded (1 - share) :=
    Format.rounded_mono (by linarith)
  exact Format.rounded_mono (mul_le_mul_of_nonneg_left hremaining (by linarith))

theorem blankWidth_zero : blankWidth w 0 = w - 2 := by
  rw [blankWidth, sub_zero, Format.single_rounded_one, mul_one]
  exact h.onGrid_inner

theorem blankWidth_le (hshare : 0 ≤ share) : blankWidth w share ≤ w - 2 :=
  (blankWidth_anti h hshare).trans_eq (blankWidth_zero h)

/-- Two roundings keep the width within a sixteenth of a pixel. -/
theorem abs_blankWidth_sub_le (hlow : 0 ≤ share) (hhigh : share ≤ 1) :
    |blankWidth w share - (w - 2) * (1 - share)| ≤ 1 / 16 := by
  obtain ⟨-, hw₂, hw⟩ := h.bounds
  have hinner : (0 : ℚ) ≤ w - 2 := by linarith
  have hremaining := Format.abs_single_rounded_sub_le (q := 1 - share) 0 (by
    rw [abs_le]
    constructor <;> linarith)
  have hzero : 0 ≤ Format.single.rounded (1 - share) := Format.rounded_nonneg (by linarith)
  have hone : Format.single.rounded (1 - share) ≤ 1 :=
    Format.single_rounded_le_one (by linarith)
  unfold blankWidth
  generalize Format.single.rounded (1 - share) = r at *
  have hproduct := Format.abs_single_rounded_sub_le (q := (w - 2) * r) 20 (by
    rw [abs_of_nonneg (mul_nonneg hinner hzero)]
    nlinarith)
  have hshift : |(w - 2 : ℚ) * r - (w - 2) * (1 - share)| ≤ 2 ^ 20 * (2 ^ 0 / 2 ^ 25) := by
    rw [← mul_sub, abs_mul, abs_of_nonneg hinner]
    exact mul_le_mul (by linarith) hremaining (abs_nonneg _) (by positivity)
  have htriangle := abs_sub_le (Format.single.rounded ((w - 2) * r)) ((w - 2) * r)
    ((w - 2) * (1 - share))
  norm_num at hproduct hshift ⊢
  linarith

theorem le_blankStart (hshare : 0 ≤ share) : x + 1 ≤ blankStart x w share := by
  have hwidth := blankWidth_le h hshare
  exact Format.le_rounded h.onGrid_first (by linarith)

theorem blankStart_le (hshare : share ≤ 1) : blankStart x w share ≤ x + w - 1 := by
  have hwidth := blankWidth_nonneg h hshare
  exact Format.rounded_le h.onGrid_border (by linarith)

theorem blankStart_mono (hshare : share ≤ share') :
    blankStart x w share ≤ blankStart x w share' := by
  have hwidth := blankWidth_anti h hshare
  exact Format.rounded_mono (by linarith)

/-- The start is within a sixteenth of a pixel of where the width puts it. -/
theorem abs_blankStart_sub_le (hlow : 0 ≤ share) (hhigh : share ≤ 1) :
    |blankStart x w share - (x + w - 1 - blankWidth w share)| ≤ 1 / 16 := by
  have hzero := blankWidth_nonneg h hhigh
  have hinner := blankWidth_le h hlow
  obtain ⟨⟨hx₁, hx₂⟩, -, hw⟩ := h.bounds
  have herror := Format.abs_single_rounded_sub_le (q := x + w - 1 - blankWidth w share) 21 (by
    rw [abs_le]
    constructor <;> linarith)
  norm_num at herror ⊢
  exact herror

/-! ## The first blank column -/

theorem le_firstBlank (progress : Double) : x + 1 ≤ firstBlank x w progress := by
  have hstart := le_blankStart h (Floating.share_nonneg (progress.convert : Single))
  rw [firstBlank, Int.le_ceil_iff]
  push_cast
  linarith

theorem firstBlank_le (progress : Double) : firstBlank x w progress ≤ x + w - 1 := by
  have hstart := blankStart_le h (Floating.share_le_one (progress.convert : Single))
  rw [firstBlank, Int.ceil_le]
  push_cast
  linarith

/-- A greater progress does not move the first blank column to the left. -/
theorem firstBlank_mono {progress progress' : Double} (hle : progress.lessEq progress' = true) :
    firstBlank x w progress ≤ firstBlank x w progress' := by
  have hshare : (progress.convert : Single).share ≤ (progress'.convert : Single).share := by
    rw [Floating.share_convert, Floating.share_convert]
    exact Format.rounded_mono (Floating.share_mono hle)
  have hstart := blankStart_mono h hshare
  exact Int.ceil_mono (by linarith)

theorem firstBlank_of_share_zero {progress : Double} (hzero : progress.share = 0) :
    firstBlank x w progress = x + 1 := by
  have hstart : blankStart x w 0 = (x + 1 : ℤ) := by
    rw [blankStart, blankWidth_zero h]
    push_cast
    rw [← h.onGrid_first]
    congr 1
    ring
  rw [firstBlank, Floating.share_convert, hzero, Format.rounded_zero, hstart, ceil_sub_half]

theorem firstBlank_of_share_one {progress : Double} (hone : progress.share = 1) :
    firstBlank x w progress = x + w - 1 := by
  have hstart : blankStart x w 1 = (x + w - 1 : ℤ) := by
    rw [blankStart, blankWidth_one, sub_zero]
    push_cast
    exact h.onGrid_border
  rw [firstBlank, Floating.share_convert, hone, Format.single_rounded_one, hstart, ceil_sub_half]

/-- All five roundings and the snapping to a column stay within one pixel. -/
theorem abs_firstBlank_sub_le (progress : Double) :
    |(firstBlank x w progress : ℚ) - (x + 1 + progress.share * (w - 2))| ≤ 1 := by
  obtain ⟨-, hw₂, hw⟩ := h.bounds
  have hlow := Floating.share_nonneg (progress.convert : Single)
  have hhigh := Floating.share_le_one (progress.convert : Single)
  have hshare := Format.abs_single_rounded_sub_le (q := progress.share) 0 (by
    rw [abs_of_nonneg progress.share_nonneg]
    exact progress.share_le_one.trans (by norm_num))
  rw [← Floating.share_convert] at hshare
  unfold firstBlank
  generalize (progress.convert : Single).share = c at *
  have hwidth := abs_blankWidth_sub_le h hlow hhigh
  have hstart := abs_blankStart_sub_le h hlow hhigh
  have hceil := Int.le_ceil (blankStart x w c - 1 / 2)
  have hceil' := Int.ceil_lt_add_one (blankStart x w c - 1 / 2)
  have hscaled : |(c - progress.share) * (w - 2)| ≤ 1 / 32 := by
    rw [abs_mul, abs_of_nonneg (by linarith : (0 : ℚ) ≤ w - 2)]
    calc |c - progress.share| * (w - 2)
        ≤ 2 ^ 0 / 2 ^ 25 * 2 ^ 20 :=
          mul_le_mul hshare (by linarith) (by linarith) (by positivity)
      _ = 1 / 32 := by norm_num
  rw [abs_le] at *
  constructor <;> linarith

/-! ## The computed blank part -/

variable {track : Rect} (hx : track.x.value? = some (x : ℚ))
  (hw : track.width.value? = some (w : ℚ)) (progress : Single)
include hw

theorem value?_blank_width :
    (blank track progress).width.value? = some (blankWidth w progress.share) := by
  obtain ⟨-, hw₂, hw₃⟩ := h.bounds
  have hlow := progress.share_nonneg
  have hhigh := progress.share_le_one
  have hremaining : (1 - usedShare progress).value? =
      some (Format.single.rounded (1 - progress.share)) := by
    have hrounds := Floating.sub_rounds (Floating.value?_literal 1 (by decide))
      (Floating.value?_usedShare progress)
    rw [Int.cast_one] at hrounds
    refine hrounds.value? (Format.single_has_nat (n := 1) (by decide)) ?_
    rw [abs_le, Nat.cast_one]
    constructor <;> linarith
  have hinner : (track.width - 2).value? = some ((w - 2 : ℤ) : ℚ) := by
    have hlow := h.two_le_width
    have hhigh := h.width_le
    exact Floating.value?_sub_int hw (Floating.value?_literal 2 (by decide)) (by omega)
  have hzero : 0 ≤ Format.single.rounded (1 - progress.share) :=
    Format.rounded_nonneg (by linarith)
  have hone : Format.single.rounded (1 - progress.share) ≤ 1 :=
    Format.single_rounded_le_one (by linarith)
  have hproduct := Floating.mul_rounds hinner hremaining
  rw [Int.cast_sub, Int.cast_ofNat] at hproduct
  refine hproduct.value? (Format.single_has_nat (n := 2 ^ 20) (by decide)) ?_
  rw [abs_of_nonneg (mul_nonneg (by linarith) hzero)]
  push_cast
  nlinarith

include hx

theorem value?_blank_x :
    (blank track progress).x.value? = some (blankStart x w progress.share) := by
  have hw₂ : 1 ≤ w := le_trans (by decide) h.two_le_width
  obtain ⟨-, hborder⟩ := value?_inside hx hw h.place hw₂ h.width_le
  have hstart := Floating.sub_rounds hborder (value?_blank_width h hw progress)
  have hexact : (((x + 1 + (w - 2) : ℤ) : ℚ) - blankWidth w progress.share) =
      x + w - 1 - blankWidth w progress.share := by
    push_cast
    ring
  rw [hexact] at hstart
  refine hstart.value? (Format.single_has_nat (n := 2 ^ 21) (by decide)) ?_
  have hzero := blankWidth_nonneg h progress.share_le_one
  have hle := blankWidth_le h progress.share_nonneg
  obtain ⟨⟨hx₁, hx₂⟩, -, hw₄⟩ := h.bounds
  push_cast
  rw [abs_le]
  constructor <;> linarith

/-- The far edge of the blank part is off the border by an eighth of a pixel at most. -/
theorem exists_value?_blank_right :
    ∃ right, (blank track progress).right.value? = some right ∧ |right - (x + w - 1)| ≤ 1 / 8 := by
  obtain ⟨⟨hx₁, hx₂⟩, hw₂, hw₃⟩ := h.bounds
  have hsum := Floating.add_rounds (value?_blank_x h hx hw progress)
    (value?_blank_width h hw progress)
  have hstart := abs_blankStart_sub_le h progress.share_nonneg progress.share_le_one
  generalize hedge : blankStart x w progress.share + blankWidth w progress.share = edge at hsum
  have hnear : |edge - (x + w - 1)| ≤ 1 / 16 := by
    rw [← hedge]
    convert hstart using 2
    ring
  have hbound : |edge| ≤ 2 ^ 21 := by
    rw [abs_le] at hnear ⊢
    constructor <;> linarith
  have herror := Format.abs_single_rounded_sub_le 21 hbound
  refine ⟨_, hsum.value? (Format.single_has_nat (n := 2 ^ 21) (by decide)) ?_, ?_⟩
  · push_cast
    exact hbound
  · norm_num at herror
    have htriangle := abs_sub_le (Format.single.rounded edge) edge (x + w - 1)
    linarith

/-- The blank part ends at the border. -/
theorem spans_blank_iff (i : Nat) :
    Spans (blank track progress).x (blank track progress).right i ↔
      ⌈blankStart x w progress.share - 1 / 2⌉ ≤ i ∧ (i : ℤ) < x + w - 1 := by
  obtain ⟨right, hvalue, hborder⟩ := exists_value?_blank_right h hx hw progress
  rw [spans_iff_of_value? (value?_blank_x h hx hw progress) hvalue]
  rw [abs_le] at hborder
  refine and_congr ?_ ?_
  · rw [Int.ceil_le, Int.cast_natCast]
    constructor <;> intro hle <;> linarith
  · constructor
    · intro hlt
      by_contra hpast
      have hpast' : ((x + w - 1 : ℤ) : ℚ) ≤ (i : ℤ) := by exact_mod_cast not_lt.1 hpast
      push_cast at hpast'
      linarith
    · intro hlt
      have hbefore : ((i : ℤ) : ℚ) + 1 ≤ (x + w - 1 : ℤ) := by exact_mod_cast hlt
      push_cast at hbefore
      linarith

end

/-! ## Painting -/

/-- A gauge lies on whole pixels: its track has the columns from `x` to `x + w` and the rows from
`y` to `y + h`. -/
structure OnPixels (g : Gauge) (x y w h : ℤ) : Prop where
  x_eq : g.origin.x.value? = some (x : ℚ)
  y_eq : g.origin.y.value? = some (y : ℚ)
  width_eq : g.size.width.value? = some (w : ℚ)
  height_eq : g.size.height.value? = some (h : ℚ)
  abs_x_le : |x| ≤ 2 ^ 20
  abs_y_le : |y| ≤ 2 ^ 20
  two_le_width : 2 ≤ w
  width_le : w ≤ 2 ^ 20
  one_le_height : 1 ≤ h
  height_le : h ≤ 2 ^ 20

namespace OnPixels

variable {g : Gauge} {x y w h : ℤ} (hg : g.OnPixels x y w h)
include hg

theorem moderate : Moderate x w :=
  ⟨hg.abs_x_le, hg.two_le_width, hg.width_le⟩

theorem covers_track_iff (i j : Nat) :
    g.track.Covers (i, j) ↔ (x ≤ i ∧ i < x + w) ∧ y ≤ j ∧ j < y + h := by
  obtain ⟨hx₁, hx₂⟩ := abs_le.1 hg.abs_x_le
  obtain ⟨hy₁, hy₂⟩ := abs_le.1 hg.abs_y_le
  obtain ⟨hx, hy, hw, hh, -, -, hw₁, hw₂, hh₁, hh₂⟩ := hg
  have hright := Floating.value?_add_int hx hw (by omega)
  have hbottom := Floating.value?_add_int hy hh (by omega)
  exact and_congr (spans_int_iff hx hright i) (spans_int_iff hy hbottom j)

theorem covers_blank_iff (progress : Double) (i j : Nat) :
    (blank g.track progress.convert).Covers (i, j) ↔
      (firstBlank x w progress ≤ i ∧ i < x + w - 1) ∧ y + 1 ≤ j ∧ j < y + h - 1 := by
  have hcolumns : Spans (blank g.track progress.convert).x
      (blank g.track progress.convert).right i ↔
        firstBlank x w progress ≤ i ∧ i < x + w - 1 :=
    spans_blank_iff hg.moderate hg.x_eq hg.width_eq progress.convert i
  obtain ⟨htop, hbottom⟩ :=
    value?_inside hg.y_eq hg.height_eq hg.abs_y_le hg.one_le_height hg.height_le
  have hrows := spans_int_iff htop hbottom j
  refine and_congr hcolumns (hrows.trans ?_)
  omega

/-- Painting the gauge colours its track and then what is blank of it. -/
theorem pixel?_paint (progress : Double) {picture : Picture} (hwidth : picture.width ≤ 2 ^ 23)
    (hheight : picture.height ≤ 2 ^ 23) {i j : Nat} (hi : i < picture.width)
    (hj : j < picture.height) :
    let painted := g.paint progress.convert picture
    let inTrack := (x ≤ i ∧ i < x + w) ∧ y ≤ j ∧ j < y + h
    let inBlank := (firstBlank x w progress ≤ i ∧ i < x + w - 1) ∧ y + 1 ≤ j ∧ j < y + h - 1
    (¬inTrack → painted.pixel? (i, j) = picture.pixel? (i, j)) ∧
      (inTrack → ¬inBlank → painted.pixel? (i, j) = some .ink) ∧
      (inTrack → inBlank → painted.pixel? (i, j) = some .paper) := by
  intro painted inTrack inBlank
  have htrack : g.track.Covers (i, j) ↔ inTrack := hg.covers_track_iff i j
  have hblank : (blank g.track progress.convert).Covers (i, j) ↔ inBlank :=
    hg.covers_blank_iff progress i j
  have hinner : inBlank → inTrack := by
    have hleft := le_firstBlank hg.moderate progress
    omega
  let inked := Surface.fillRect picture g.track .ink
  have hw : inked.width = picture.width := Picture.width_draw picture (.fill g.track .ink)
  have hh : inked.height = picture.height := Picture.height_draw picture (.fill g.track .ink)
  have hkept (hout : ¬inBlank) : painted.pixel? (i, j) = inked.pixel? (i, j) :=
    Picture.pixel?_fillRect_of_not_covers (hw.trans_le hwidth) (hh.trans_le hheight)
      (hi.trans_eq hw.symm) (hj.trans_eq hh.symm) fun hin => hout (hblank.1 hin)
  refine ⟨?_, ?_, ?_⟩
  · intro hout
    rw [hkept fun hin => hout (hinner hin)]
    exact Picture.pixel?_fillRect_of_not_covers hwidth hheight hi hj fun hin =>
      hout (htrack.1 hin)
  · intro hin hout
    rw [hkept hout]
    exact Picture.pixel?_fillRect_of_covers hwidth hheight hi hj (htrack.2 hin)
  · intro _ hin
    exact Picture.pixel?_fillRect_of_covers (hw.trans_le hwidth) (hh.trans_le hheight)
      (hi.trans_eq hw.symm) (hj.trans_eq hh.symm) (hblank.2 hin)

end OnPixels

/-- **A gauge on whole pixels shows its progress in whole columns.** Outside its track it changes
nothing. Within the track the blank part is made of whole columns from `firstBlank` to the border of
one pixel, and all else is inked. The first blank column depends on the place, the width and the
progress alone and never moves to the left as the progress grows. It is the first one inside the
border if there is no progress or no number, the border itself if the progress is complete, and
always within one pixel of the exact share. -/
theorem paint_columns (g : Gauge) (x y w h : ℤ) (hg : g.OnPixels x y w h) (progress : Double)
    (picture : Picture) (hwidth : picture.width ≤ 2 ^ 23) (hheight : picture.height ≤ 2 ^ 23) :
    let left := firstBlank x w progress
    let painted := g.paint progress.convert picture
    (painted.width = picture.width ∧ painted.height = picture.height) ∧
      (∀ i < picture.width, ∀ j < picture.height,
        let inTrack := (x ≤ i ∧ i < x + w) ∧ y ≤ j ∧ j < y + h
        let inBlank := (left ≤ i ∧ i < x + w - 1) ∧ y + 1 ≤ j ∧ j < y + h - 1
        (¬inTrack → painted.pixel? (i, j) = picture.pixel? (i, j)) ∧
          (inTrack → ¬inBlank → painted.pixel? (i, j) = some .ink) ∧
          (inTrack → inBlank → painted.pixel? (i, j) = some .paper)) ∧
      (x + 1 ≤ left ∧ left ≤ x + w - 1) ∧
      (∀ progress', progress.lessEq progress' = true → left ≤ firstBlank x w progress') ∧
      (progress.lessEq 0 = true ∨ progress.isNan = true → left = x + 1) ∧
      (Floating.lessEq 1 progress = true → left = x + w - 1) ∧
      |(left : ℚ) - (x + 1 + progress.share * (w - 2))| ≤ 1 := by
  intro left painted
  refine ⟨⟨?_, ?_⟩, ?_, ?_, ?_, ?_, ?_, ?_⟩
  · exact (Picture.width_draw _ (.fill _ .paper)).trans (Picture.width_draw _ (.fill _ .ink))
  · exact (Picture.height_draw _ (.fill _ .paper)).trans (Picture.height_draw _ (.fill _ .ink))
  · intro i hi j hj
    exact hg.pixel?_paint progress hwidth hheight hi hj
  · exact ⟨le_firstBlank hg.moderate progress, firstBlank_le hg.moderate progress⟩
  · intro progress' hle
    exact firstBlank_mono hg.moderate hle
  · intro hnone
    exact firstBlank_of_share_zero hg.moderate (Floating.share_eq_zero hnone)
  · intro hfull
    exact firstBlank_of_share_one hg.moderate (Floating.share_eq_one hfull)
  · exact abs_firstBlank_sub_le hg.moderate progress

/-- A gauge that begins one column before the picture does, at one third. -/
theorem paint_columns_one_third :
    let g : Gauge := ⟨⟨-1, 0⟩, ⟨8, 3⟩, "load"⟩
    let progress : Double := .ofDecimal 3333 4
    let painted := g.paint progress.convert (Picture.blank 8 3)
    painted.pixel? (0, 1) = some .ink ∧ painted.pixel? (2, 1) = some .paper ∧
      painted.pixel? (6, 1) = some .ink ∧ painted.pixel? (7, 1) = some .paper := by
  intro g progress painted
  have hg : g.OnPixels (-1) 0 8 3 := by
    constructor <;> decide +kernel
  obtain ⟨-, hpixels, -⟩ := paint_columns g (-1) 0 8 3 hg progress (Picture.blank 8 3)
    (by decide) (by decide)
  have hfirst : firstBlank (-1) 8 progress = 2 := by decide +kernel
  rw [hfirst] at hpixels
  refine ⟨?_, ?_, ?_, ?_⟩
  · exact (hpixels 0 (by decide) 1 (by decide)).2.1 (by decide) (by decide)
  · exact (hpixels 2 (by decide) 1 (by decide)).2.2 (by decide) (by decide)
  · exact (hpixels 6 (by decide) 1 (by decide)).2.1 (by decide) (by decide)
  · exact ((hpixels 7 (by decide) 1 (by decide)).1 (by decide)).trans (by decide +kernel)

end Gauge

end StatusPanel
