import StatusPanel.Proofs.ExactValues
import StatusPanel.Proofs.Overpainting

/-!
# The pixel-centre rule

A filled rectangle colours the pixels whose centres lie in it, on its near edges as well but not on
its far ones. Finding them takes a subtraction, a rounding to a whole number and a conversion, none
of which is exact everywhere; still they divide a line of pixels at exactly the edge
(`lt_firstFrom_iff`), and so the rule holds for every rectangle (`fillRect_pixel_centres`).
-/

namespace StatusPanel

namespace Floating

/-! ## Dividing a line of pixels -/

/-- Rounding up to a whole number and converting that keeps what lies below a pixel. -/
theorem lt_toNat_toInt64_ceil {x : Single} {i : Nat} (hi : i < 2 ^ 24) :
    i < x.ceil.toInt64.toNat ↔ x.Above i := by
  cases x with
  | nan => exact ⟨fun h => absurd h (Nat.not_lt_zero i), False.elim⟩
  | infinite s =>
    cases s with
    | false =>
      refine ⟨fun _ => rfl, fun _ => ?_⟩
      show i < 0x7FFFFFFFFFFFFFFF
      omega
    | true => exact ⟨fun h => absurd h (Nat.not_lt_zero i), fun h => nomatch h⟩
  | finite s n hn =>
    have hceil := ceil_rounds (x := finite s n hn) rfl
    rw [above_iff_of_value? rfl]
    generalize (signed s n : ℚ) / 2 ^ Format.single.scale = v at hceil
    constructor
    · intro h
      refine lt_of_not_ge fun hle => ?_
      have hwhole : ((⌈v⌉ : ℤ) : ℚ) ≤ i := by exact_mod_cast Int.ceil_le.2 hle
      have hmost := toNat_toInt64_le (hceil.atMost (Format.single_has_nat hi.le) hwhole)
      omega
    · intro h
      have hwhole : ((i + 1 : Nat) : ℚ) ≤ (⌈v⌉ : ℤ) := by exact_mod_cast Int.lt_ceil.2 h
      have hleast := le_toNat_toInt64 (by omega)
        (hceil.atLeast (Format.single_has_nat hi) hwhole)
      omega

theorem value?_half : Font.half.value? = some (1 / 2) := by
  decide +kernel

/-- Taking one half away is exact from one half up to where the spacing becomes one. -/
theorem onGrid_sub_half {v : ℚ} (hv : Format.single.Has v) (hlow : 1 / 2 ≤ v) (hhigh : v < 2 ^ 23) :
    Format.single.OnGrid (v - 1 / 2) := by
  obtain ⟨x, hx⟩ := hv
  obtain ⟨s, n, hn, -, rfl⟩ := exists_finite_of_value? hx
  have hs : s = false := by
    cases s with
    | false => rfl
    | true =>
      have hneg := signed_true_div_nonpos n Format.single.scale
      linarith
  subst hs
  have hscale : Format.single.scale = 149 := rfl
  simp only [signed, hscale, Bool.false_eq_true, if_false, Int.cast_natCast] at hlow hhigh ⊢
  have hfrom : 2 ^ 148 ≤ n := by
    rw [le_div_iff₀ (by positivity)] at hlow
    have : (2 : ℚ) ^ 148 ≤ n := by linarith
    exact_mod_cast this
  have hspacing : Format.single.spacing n ≤ 148 := by
    refine Format.spacing_le_of_lt ?_
    rw [div_lt_iff₀ (by positivity)] at hhigh
    have : (n : ℚ) < 2 ^ 172 := by linarith
    exact_mod_cast this
  have hsub := Format.onGrid_sub (f := .single) (m := 2 ^ 148) hn.2 (by
    rw [Nat.one_shiftLeft]
    exact Nat.pow_dvd_pow 2 hspacing)
  rw [Nat.cast_sub hfrom, hscale, sub_div] at hsub
  norm_num at hsub ⊢
  exact hsub

/-- Half a pixel before its centre a pixel begins. -/
theorem above_sub_half {edge : Single} {i : Nat} (hi : i < 2 ^ 23) :
    (edge - Font.half).Above i ↔ edge.Above (i + 1 / 2) := by
  cases edge with
  | nan => exact Iff.rfl
  | infinite s =>
    obtain ⟨t, n, hn, hhalf, -⟩ := exists_finite_of_value? value?_half
    rw [hhalf]
    exact Iff.rfl
  | finite s n hn =>
    have hsub := sub_rounds (x := finite s n hn) rfl value?_half
    have hhas : Format.single.Has (signed s n / 2 ^ Format.single.scale) := ⟨finite s n hn, rfl⟩
    rw [above_iff_of_value? (x := finite s n hn) rfl]
    generalize (signed s n : ℚ) / 2 ^ Format.single.scale = v at hsub hhas
    have hi' : (i : ℚ) + 1 ≤ 2 ^ 23 := by exact_mod_cast hi
    have hfrom : (0 : ℚ) ≤ i := Nat.cast_nonneg i
    constructor
    · intro habove
      refine lt_of_not_ge fun hle => ?_
      have hmost := hsub.atMost (Format.single_has_nat (n := i) (by omega)) (by linarith)
      exact hmost.not_above le_rfl habove
    · intro h
      rcases lt_or_ge v (2 ^ 23) with hsmall | hlarge
      · have hexact : Format.single.rounded (v - 1 / 2) = v - 1 / 2 :=
          onGrid_sub_half hhas (by linarith) hsmall
        have hvalue := hsub.value? (Format.single_has_nat (n := 2 ^ 23) (by decide)) (by
          rw [abs_of_nonneg (by linarith)]
          norm_num at hsmall ⊢
          linarith)
        rw [hexact] at hvalue
        rw [above_iff_of_value? hvalue]
        linarith
      · -- the subtraction may be inexact here, but stays past the last pixel
        have hhas : Format.single.Has ((2 ^ 24 - 1 : ℤ) / 2 ^ 1) :=
          Format.single_has_div_pow (by decide) (by decide)
        refine (hsub.atLeast hhas ?_).above ?_
        · norm_num at hlarge ⊢
          linarith
        · norm_num at hi' ⊢
          linarith

end Floating

/-- **An edge divides a line of pixels at their centres.** The pixels before it are those whose
centres the edge lies beyond; NaN lies beyond none. -/
theorem lt_firstFrom_iff {edge : Single} {i limit : Nat} (hi : i < limit)
    (hlimit : limit ≤ 2 ^ 23) : i < firstFrom edge limit ↔ edge.Above (i + 1 / 2) := by
  have hmin : i < firstFrom edge limit ↔ i < (edge - Font.half).ceil.toInt64.toNat := by
    unfold firstFrom
    omega
  rw [hmin, Floating.lt_toNat_toInt64_ceil (by omega), Floating.above_sub_half (by omega)]

/-! ## Rectangles -/

/-- The centre of a pixel of a line lies between two edges, the first one included. -/
def Spans (first last : Single) (i : Nat) : Prop :=
  first.AtMost (i + 1 / 2) ∧ last.Above (i + 1 / 2)

theorem spans_iff_of_value? {first last : Single} {a b : ℚ} (ha : first.value? = some a)
    (hb : last.value? = some b) (i : Nat) :
    Spans first last i ↔ a ≤ i + 1 / 2 ∧ (i : ℚ) + 1 / 2 < b := by
  rw [Spans, Floating.atMost_iff_of_value? ha, Floating.above_iff_of_value? hb]

theorem int_le_add_half_iff {m : ℤ} {i : Nat} : (m : ℚ) ≤ i + 1 / 2 ↔ m ≤ i := by
  constructor
  · intro h
    by_contra hlt
    have hstep : ((i : ℤ) : ℚ) + 1 ≤ m := by exact_mod_cast not_le.1 hlt
    rw [Int.cast_natCast] at hstep
    linarith
  · intro h
    have hle : (m : ℚ) ≤ (i : ℤ) := by exact_mod_cast h
    rw [Int.cast_natCast] at hle
    linarith

/-- Between edges on whole pixels lie whole pixels. -/
theorem spans_int_iff {first last : Single} {m n : ℤ} (hm : first.value? = some (m : ℚ))
    (hn : last.value? = some (n : ℚ)) (i : Nat) : Spans first last i ↔ m ≤ i ∧ i < n := by
  rw [spans_iff_of_value? hm hn, int_le_add_half_iff, ← not_le, int_le_add_half_iff, not_le]

namespace Rect

/-- The centre of a pixel lies in the rectangle. -/
def Covers (r : Rect) (place : Pixel) : Prop :=
  Spans r.x r.right place.1 ∧ Spans r.y r.bottom place.2

end Rect

namespace Floating

theorem isNan_of_add {f : Format} {x y : Floating f} (h : (x + y).isNan = false) :
    x.isNan = false := by
  cases x with
  | nan => cases h
  | infinite s => rfl
  | finite s n hn => rfl

/-- An extent that is not positive leads past no centre: rounding does not carry the sum up across
the edge that it is taken from. -/
theorem isPositive_of_spans {x extent : Single} {i : Nat} (h : Spans x (x + extent) i) :
    extent.isPositive = true := by
  obtain ⟨hfirst, hlast⟩ := h
  cases x with
  | nan => exact hfirst.elim
  | infinite s =>
    -- an edge at negative infinity can only be left by way of NaN
    rw [show s = true from hfirst] at hlast
    cases extent with
    | nan => exact hlast.elim
    | infinite t =>
      cases t with
      | false => rfl
      | true => exact nomatch (show true = false from hlast)
    | finite t n hn => exact nomatch (show true = false from hlast)
  | finite s m hm =>
    cases extent with
    | nan => exact hlast.elim
    | infinite t =>
      rw [show t = false from hlast]
      rfl
    | finite t n hn =>
      rw [isPositive_iff_of_value? (x := finite t n hn) rfl]
      refine lt_of_not_ge fun hle => ?_
      have hsum := add_rounds (x := finite s m hm) (y := finite t n hn) rfl rfl
      have hmost := hsum.atMost ⟨finite s m hm, rfl⟩ (add_le_of_nonpos_right hle)
      exact hmost.not_above hfirst hlast

end Floating

theorem spans_iff {x extent : Single} {i limit : Nat} (hi : i < limit) (hlimit : limit ≤ 2 ^ 23) :
    firstFrom x limit ≤ i ∧ i < firstFrom (x + extent) limit ↔ Spans x (x + extent) i := by
  rw [lt_firstFrom_iff hi hlimit, ← Nat.not_lt, lt_firstFrom_iff hi hlimit]
  unfold Spans
  refine and_congr_left fun habove => ?_
  exact (Floating.atMost_iff_not_above (Floating.isNan_of_add habove.isNan) _).symm

theorem Rect.mem_footprint_iff_covers {r : Rect} {x y width height : Nat} (hx : x < width)
    (hy : y < height) (hw : width ≤ 2 ^ 23) (hh : height ≤ 2 ^ 23) :
    (x, y) ∈ r.footprint width height ↔ r.Covers (x, y) := by
  rw [Rect.mem_footprint (hw.trans (by decide)) (hh.trans (by decide))]
  rw [Rect.right, Rect.bottom, spans_iff hx hw, spans_iff hy hh]
  refine and_iff_right_of_imp ?_
  rintro ⟨hcolumns, hrows⟩
  simp [isEmpty, Floating.isPositive_of_spans hcolumns, Floating.isPositive_of_spans hrows]

/-! ## Filled rectangles -/

namespace Picture

variable {p : Picture} {r : Rect} {color : Color} {x y : Nat}

theorem pixel?_fillRect_of_covers (hw : p.width ≤ 2 ^ 23) (hh : p.height ≤ 2 ^ 23)
    (hx : x < p.width) (hy : y < p.height) (h : r.Covers (x, y)) :
    (Surface.fillRect p r color).pixel? (x, y) = some color := by
  obtain ⟨old, hold⟩ := p.pixel?_of_lt hx hy
  show (p.paint (r.footprint p.width p.height) color).pixel? (x, y) = some color
  rw [pixel?_paint, if_pos ((Rect.mem_footprint_iff_covers hx hy hw hh).2 h), hold]
  rfl

theorem pixel?_fillRect_of_not_covers (hw : p.width ≤ 2 ^ 23) (hh : p.height ≤ 2 ^ 23)
    (hx : x < p.width) (hy : y < p.height) (h : ¬r.Covers (x, y)) :
    (Surface.fillRect p r color).pixel? (x, y) = p.pixel? (x, y) := by
  show (p.paint (r.footprint p.width p.height) color).pixel? (x, y) = p.pixel? (x, y)
  rw [pixel?_paint, if_neg fun hmem => h ((Rect.mem_footprint_iff_covers hx hy hw hh).1 hmem)]

/-- **A filled rectangle colours the pixels whose centres lie in it, and no others.** The near edges
are part of the rectangle, the far ones, which are rounded sums, are not, and NaN is no edge at all.
If there is anything to colour, it is a rectangle of at least one pixel that lies within the
picture. -/
theorem fillRect_pixel_centres (p : Picture) (r : Rect) (color : Color)
    (hw : p.width ≤ 2 ^ 23) (hh : p.height ≤ 2 ^ 23) :
    let filled := Surface.fillRect p r color
    (filled.width = p.width ∧ filled.height = p.height) ∧
      (∀ x < p.width, ∀ y < p.height,
        (r.Covers (x, y) → filled.pixel? (x, y) = some color) ∧
          (¬r.Covers (x, y) → filled.pixel? (x, y) = p.pixel? (x, y))) ∧
      ∀ area, r.pixelRect? p.width p.height = some area →
        0 < area.width.toNat ∧ 0 < area.height.toNat ∧
          ∀ x y, (x, y) ∈ area.places → (0 ≤ x ∧ x < p.width) ∧ 0 ≤ y ∧ y < p.height := by
  intro filled
  refine ⟨⟨width_draw p (.fill r color), height_draw p (.fill r color)⟩, ?_, ?_⟩
  · intro x hx y hy
    exact ⟨pixel?_fillRect_of_covers hw hh hx hy, pixel?_fillRect_of_not_covers hw hh hx hy⟩
  · intro area harea
    have hright := firstFrom_le r.right p.width
    have hbottom := firstFrom_le r.bottom p.height
    obtain ⟨-, hcolumns, hrows⟩ :=
      Rect.of_pixelRect? (hw.trans (by decide)) (hh.trans (by decide)) harea
    refine ⟨hcolumns.2.1, hrows.2.1, ?_⟩
    intro x y hmem
    rw [PixelRect.mem_places] at hmem
    omega

/-- A column from half a pixel to one pixel and a half has the first centre on its near edge and
the second on its far one. -/
theorem fillRect_pixel_centres_edges :
    let filled := Surface.fillRect (blank 3 2) ⟨Font.half, -1, 1, .infinite false⟩ .ink
    filled.pixel? (0, 1) = some .ink ∧ filled.pixel? (1, 1) = some .paper := by
  intro filled
  obtain ⟨-, hpixels, -⟩ := fillRect_pixel_centres (blank 3 2)
    ⟨Font.half, -1, 1, .infinite false⟩ .ink (by decide) (by decide)
  constructor
  · exact (hpixels 0 (by decide) 1 (by decide)).1 (by
      unfold Rect.Covers Spans
      decide +kernel)
  · refine ((hpixels 1 (by decide) 1 (by decide)).2 ?_).trans (by decide +kernel)
    unfold Rect.Covers Spans
    decide +kernel

end Picture

end StatusPanel
