import Mathlib.Algebra.Order.Field.Rat
import Mathlib.Tactic.FieldSimp
import Mathlib.Tactic.Linarith
import Mathlib.Tactic.Positivity
import Mathlib.Tactic.Ring
import StatusPanel.Floating.Basic

/-!
# Rounding to a format's grid

Rounding is a function on the rational numbers, whatever whole numbers a quotient is given by. It
is odd and monotone, leaves the points of the grid where they are, and moves nothing further than
half a spacing. So it never carries a number across a point of the grid (`rounded_le`,
`le_rounded`), which is how most facts about computed numbers come about.
-/

namespace StatusPanel

/-! ## Rounded quotients -/

theorem roundDiv_mul_left {k : Nat} (hk : 0 < k) (num den : Nat) :
    roundDiv (k * num) (k * den) = roundDiv num den := by
  unfold roundDiv
  have hlt : 2 * (k * (num % den)) < k * den ↔ 2 * (num % den) < den := by
    rw [Nat.mul_left_comm]
    exact Nat.mul_lt_mul_left hk
  have heq : 2 * (k * (num % den)) = k * den ↔ 2 * (num % den) = den := by
    rw [Nat.mul_left_comm]
    exact Nat.mul_right_inj (Nat.pos_iff_ne_zero.1 hk)
  simp only [Nat.mul_div_mul_left _ _ hk, Nat.mul_mod_mul_left, hlt, beq_eq_decide, heq]

/-- Equal quotients are rounded alike. -/
theorem roundDiv_congr {a b c d : Nat} (hb : 0 < b) (hd : 0 < d) (h : a * d = c * b) :
    roundDiv a b = roundDiv c d := by
  rw [← roundDiv_mul_left hd a b, ← roundDiv_mul_left hb c d, Nat.mul_comm d a, h,
    Nat.mul_comm d b, Nat.mul_comm c b]

/-- A rounded quotient is off by one half at most. -/
theorem roundDiv_error (num : Nat) {den : Nat} (hden : 0 < den) :
    2 * (roundDiv num den * den) ≤ 2 * num + den ∧
      2 * num ≤ 2 * (roundDiv num den * den) + den := by
  have hsplit := Nat.div_add_mod' num den
  have hrest := Nat.mod_lt num hden
  unfold roundDiv
  dsimp only
  split
  · next h =>
    simp only [Bool.or_eq_true, decide_eq_true_eq, Bool.and_eq_true, beq_iff_eq] at h
    omega
  · next h =>
    simp only [Bool.or_eq_true, decide_eq_true_eq, Bool.and_eq_true, beq_iff_eq] at h
    rw [Nat.add_mul]
    omega

theorem roundDiv_mono {a b c d : Nat} (hb : 0 < b) (hd : 0 < d) (h : a * d ≤ c * b) :
    roundDiv a b ≤ roundDiv c d := by
  rcases Nat.eq_or_lt_of_le h with heq | hlt
  · exact Nat.le_of_eq (roundDiv_congr hb hd heq)
  · -- unequal quotients that were rounded the wrong way round would be a whole step apart
    refine Nat.le_of_not_lt fun hcross => ?_
    have hlow := (roundDiv_error a hb).1
    have hhigh := (roundDiv_error c hd).2
    nlinarith [Nat.mul_le_mul_right (b * d) hcross]

theorem roundDiv_mul_self {den : Nat} (hden : 0 < den) (n : Nat) : roundDiv (n * den) den = n := by
  simp [roundDiv, Nat.mul_div_cancel _ hden, hden]

namespace Format

/-! ## The nearest point of the grid -/

variable {f : Format}

theorem nearest_eq (f : Format) (num den : Nat) :
    f.nearest num den =
      roundDiv num (den * 2 ^ f.spacing (num / den)) * 2 ^ f.spacing (num / den) := by
  simp only [nearest, Nat.shiftLeft_eq]

theorem nearest_zero (f : Format) (den : Nat) : f.nearest 0 den = 0 := by
  rw [nearest_eq, Nat.mul_eq_zero]
  left
  simp [roundDiv]

theorem nearest_congr {a b c d : Nat} (hb : 0 < b) (hd : 0 < d) (h : a * d = c * b) :
    f.nearest a b = f.nearest c d := by
  have hdiv : a / b = c / d := by
    rw [← Nat.mul_div_mul_right a b hd, ← Nat.mul_div_mul_right c d hb, h, Nat.mul_comm b d]
  rw [nearest_eq, nearest_eq, hdiv]
  congr 1
  refine roundDiv_congr (by positivity) (by positivity) ?_
  rw [← Nat.mul_assoc, ← Nat.mul_assoc, h]

theorem spacing_mono {m n : Nat} (h : m ≤ n) : f.spacing m ≤ f.spacing n :=
  spacing_le_of_lt (Nat.lt_of_le_of_lt h (lt_shift_of_spacing_le (Nat.le_refl _)))

theorem nearest_le_pow (f : Format) (num den : Nat) :
    f.nearest num den ≤ 2 ^ (f.precision + f.spacing (num / den)) := by
  have hsteps := roundDiv_shift_le f num den
  rw [Nat.one_shiftLeft, Nat.shiftLeft_eq] at hsteps
  rw [nearest_eq, Nat.pow_add]
  exact Nat.mul_le_mul_right _ hsteps

/-- A quotient with a wider spacing has a bit beyond the significand at the spacing `s`. -/
theorem pow_le_nearest {num den s : Nat} (h : s < f.spacing (num / den)) :
    2 ^ (f.precision + s) ≤ f.nearest num den := by
  rw [nearest_eq]
  have hround := div_le_roundDiv num (den * 2 ^ f.spacing (num / den))
  rw [← Nat.div_div_eq_div_mul] at hround
  generalize num / den = n at h hround
  have hp := f.precision_pos
  have hbit : 2 ^ (f.precision - 1) * 2 ^ f.spacing n ≤ n := by
    refine Nat.le_of_not_lt fun hlt => ?_
    have hle := @spacing_le_of_lt f n (f.spacing n - 1) (by
      rw [← Nat.pow_add] at hlt
      rwa [Nat.one_shiftLeft, show f.precision + (f.spacing n - 1) =
        f.precision - 1 + f.spacing n by omega])
    omega
  calc 2 ^ (f.precision + s)
      ≤ 2 ^ (f.precision - 1 + f.spacing n) := Nat.pow_le_pow_right (by decide) (by omega)
    _ = 2 ^ (f.precision - 1) * 2 ^ f.spacing n := Nat.pow_add ..
    _ ≤ n / 2 ^ f.spacing n * 2 ^ f.spacing n :=
        Nat.mul_le_mul_right _ ((Nat.le_div_iff_mul_le (Nat.two_pow_pos _)).2 hbit)
    _ ≤ _ := Nat.mul_le_mul_right _ hround

/-- A larger quotient is not rounded to a lesser point. Where the spacing changes in between, the
power of two at which it does keeps the two points apart. -/
theorem nearest_mono {a b c d : Nat} (hb : 0 < b) (hd : 0 < d) (h : a * d ≤ c * b) :
    f.nearest a b ≤ f.nearest c d := by
  have hdiv : a / b ≤ c / d := by
    rw [← Nat.mul_div_mul_right a b hd, ← Nat.mul_div_mul_right c d hb, Nat.mul_comm d b]
    exact Nat.div_le_div_right h
  rcases Nat.eq_or_lt_of_le (spacing_mono (f := f) hdiv) with hs | hs
  · rw [nearest_eq, nearest_eq, hs]
    refine Nat.mul_le_mul_right _ (roundDiv_mono (by positivity) (by positivity) ?_)
    rw [← Nat.mul_assoc, ← Nat.mul_assoc]
    exact Nat.mul_le_mul_right _ h
  · exact Nat.le_trans (nearest_le_pow f a b) (pow_le_nearest hs)

theorem nearest_of_dvd {n den : Nat} (hden : 0 < den) (h : 1 <<< f.spacing n ∣ n) :
    f.nearest (n * den) den = n := by
  obtain ⟨k, hk⟩ := h
  rw [Nat.one_shiftLeft] at hk
  rw [nearest_eq, Nat.mul_div_cancel _ hden]
  generalize f.spacing n = s at hk
  have hsteps : n * den = k * (den * 2 ^ s) := by
    rw [hk, Nat.mul_comm (2 ^ s) k, Nat.mul_assoc, Nat.mul_comm den]
  rw [hsteps, roundDiv_mul_self (by positivity), hk, Nat.mul_comm]

/-- Up to `2 ^ (precision + s)` units nothing moves further than one half of `2 ^ s` units. -/
theorem nearest_error {num den s : Nat} (hden : 0 < den)
    (h : num ≤ 2 ^ (f.precision + s) * den) :
    2 * (f.nearest num den * den) ≤ 2 * num + den * 2 ^ s ∧
      2 * num ≤ 2 * (f.nearest num den * den) + den * 2 ^ s := by
  rcases Nat.eq_or_lt_of_le h with rfl | h
  · have hpow : (1 <<< f.precision) <<< s = 2 ^ (f.precision + s) := by
      rw [Nat.shiftLeft_eq, Nat.one_shiftLeft, ← Nat.pow_add]
    have hdvd := spacing_dvd_shift (f := f) (s := s) (Nat.le_refl (1 <<< f.precision))
    rw [hpow] at hdvd
    rw [nearest_of_dvd hden hdvd]
    omega
  have hs : f.spacing (num / den) ≤ s := by
    refine spacing_le_of_lt ?_
    rw [Nat.one_shiftLeft]
    exact Nat.div_lt_of_lt_mul (by rwa [Nat.mul_comm])
  rw [nearest_eq]
  generalize f.spacing (num / den) = t at hs
  have hstep : den * 2 ^ t ≤ den * 2 ^ s :=
    Nat.mul_le_mul_left _ (Nat.pow_le_pow_right (by decide) hs)
  obtain ⟨hlow, hhigh⟩ := roundDiv_error num (by positivity : 0 < den * 2 ^ t)
  rw [Nat.mul_assoc, Nat.mul_comm (2 ^ t) den]
  omega

/-! ## Rounding rational numbers -/

/-- The point of the format's grid nearest to `q`, a half going to the even neighbour. -/
def rounded (f : Format) (q : ℚ) : ℚ :=
  Floating.signed (q < 0) (f.nearest (q.num.natAbs <<< f.scale) q.den) / 2 ^ f.scale

/-- Rounding leaves `q` as it is. -/
def OnGrid (f : Format) (q : ℚ) : Prop :=
  f.rounded q = q

theorem rounded_neg (f : Format) (q : ℚ) : f.rounded (-q) = -f.rounded q := by
  unfold rounded
  rw [Rat.neg_num, Rat.neg_den, Int.natAbs_neg]
  rcases lt_trichotomy q 0 with hneg | rfl | hpos
  · simp [Floating.signed, hneg, hneg.not_gt, neg_div]
  · simp [nearest_zero, Floating.signed]
  · simp [Floating.signed, hpos, hpos.not_gt, neg_div]

theorem rounded_zero (f : Format) : f.rounded 0 = 0 := by
  simp [rounded, nearest_zero, Floating.signed]

/-- Rounding a quotient of whole numbers, however it is written. -/
theorem rounded_div (f : Format) (num : Nat) {den : Nat} (hden : 0 < den) :
    f.rounded (num / (den * 2 ^ f.scale)) = f.nearest num den / 2 ^ f.scale := by
  generalize hq : (num / (den * 2 ^ f.scale) : ℚ) = q
  have hpos : 0 ≤ q := by
    rw [← hq]
    positivity
  have hnum : q = q.num.natAbs / q.den := by
    rw [Nat.cast_natAbs, abs_of_nonneg (Rat.num_nonneg.2 hpos), Rat.num_div_den]
  have hcross : q.num.natAbs * 2 ^ f.scale * den = num * q.den := by
    have hq' : (num : ℚ) / (den * 2 ^ f.scale) = q.num.natAbs / q.den := hq.trans hnum
    have hqden := q.den_pos
    rw [div_eq_div_iff (by positivity) (by positivity)] at hq'
    have hnat : num * q.den = q.num.natAbs * (den * 2 ^ f.scale) := by exact_mod_cast hq'
    rw [hnat, Nat.mul_assoc, Nat.mul_comm den]
  unfold rounded
  rw [Nat.shiftLeft_eq, nearest_congr q.den_pos hden hcross]
  simp [Floating.signed, hpos]

/-- A number that is not negative is a quotient of whole numbers of units. -/
theorem exists_ratio (f : Format) {q : ℚ} (h : 0 ≤ q) :
    ∃ num den : Nat, 0 < den ∧ q = num / (den * 2 ^ f.scale) := by
  refine ⟨q.num.natAbs * 2 ^ f.scale, q.den, q.den_pos, ?_⟩
  push_cast
  rw [mul_div_mul_right _ _ (by positivity), Nat.cast_natAbs,
    abs_of_nonneg (Rat.num_nonneg.2 h), Rat.num_div_den]

theorem rounded_nonneg {q : ℚ} (h : 0 ≤ q) : 0 ≤ f.rounded q := by
  obtain ⟨num, den, hden, rfl⟩ := f.exists_ratio h
  rw [rounded_div f num hden]
  positivity

theorem rounded_le_rounded_of_nonneg {q r : ℚ} (hq : 0 ≤ q) (h : q ≤ r) :
    f.rounded q ≤ f.rounded r := by
  obtain ⟨a, b, hb, rfl⟩ := f.exists_ratio hq
  obtain ⟨c, d, hd, rfl⟩ := f.exists_ratio (hq.trans h)
  rw [rounded_div f a hb, rounded_div f c hd]
  have hcross : a * d ≤ c * b := by
    rw [← div_div, ← div_div, div_le_div_iff_of_pos_right (by positivity),
      div_le_div_iff₀ (by positivity) (by positivity)] at h
    exact_mod_cast h
  have hle : (f.nearest a b : ℚ) ≤ f.nearest c d := by exact_mod_cast nearest_mono hb hd hcross
  gcongr

theorem rounded_mono {q r : ℚ} (h : q ≤ r) : f.rounded q ≤ f.rounded r := by
  rcases le_total 0 q with hq | hq
  · exact rounded_le_rounded_of_nonneg hq h
  · rcases le_total 0 r with hr | hr
    · have hlow := rounded_nonneg (f := f) (neg_nonneg.2 hq)
      rw [rounded_neg] at hlow
      have hhigh := rounded_nonneg (f := f) hr
      linarith
    · have hflip := rounded_le_rounded_of_nonneg (f := f) (neg_nonneg.2 hr) (neg_le_neg h)
      rw [rounded_neg, rounded_neg] at hflip
      linarith

theorem rounded_le {q g : ℚ} (hg : f.OnGrid g) (h : q ≤ g) : f.rounded q ≤ g :=
  (rounded_mono h).trans_eq hg

theorem le_rounded {q g : ℚ} (hg : f.OnGrid g) (h : g ≤ q) : g ≤ f.rounded q :=
  hg.symm.trans_le (rounded_mono h)

/-! ## Points of the grid -/

theorem OnGrid.neg {q : ℚ} (h : f.OnGrid q) : f.OnGrid (-q) := by
  rw [OnGrid, rounded_neg, h]

theorem onGrid_units {n : Nat} (h : 1 <<< f.spacing n ∣ n) : f.OnGrid (n / 2 ^ f.scale) := by
  have hround := rounded_div f n Nat.one_pos
  rw [← Nat.mul_one n, nearest_of_dvd Nat.one_pos h] at hround
  simpa [OnGrid] using hround

/-- A difference is on the grid where what is taken away lies on that of what it is taken from. -/
theorem onGrid_sub {m n : Nat} (hn : 1 <<< f.spacing n ∣ n) (hm : 1 <<< f.spacing n ∣ m) :
    f.OnGrid ((n - m : Nat) / 2 ^ f.scale) := by
  refine onGrid_units (Nat.dvd_trans ?_ (Nat.dvd_sub hn hm))
  rw [Nat.one_shiftLeft, Nat.one_shiftLeft]
  exact Nat.pow_dvd_pow 2 (spacing_mono (Nat.sub_le n m))

/-- Fractions whose numerator fits the significand are on the grid. -/
theorem onGrid_div_pow {m : ℤ} {k : Nat} (hk : k ≤ f.scale) (hm : m.natAbs ≤ 2 ^ f.precision) :
    f.OnGrid (m / 2 ^ k) := by
  have natural : ∀ n : Nat, n ≤ 2 ^ f.precision → f.OnGrid (n / 2 ^ k) := by
    intro n hn
    have hshift := onGrid_units (spacing_dvd_shift (f := f) (m := n) (s := f.scale - k) (by
      rwa [Nat.one_shiftLeft]))
    rw [Nat.shiftLeft_eq] at hshift
    push_cast at hshift
    have hpow : (2 : ℚ) ^ f.scale = 2 ^ (f.scale - k) * 2 ^ k := by
      rw [← pow_add, Nat.sub_add_cancel hk]
    rwa [hpow, mul_comm (n : ℚ), mul_div_mul_left _ _ (by positivity)] at hshift
  obtain ⟨n, rfl | rfl⟩ := m.eq_nat_or_neg
  · exact natural n hm
  · rw [Int.natAbs_neg] at hm
    push_cast
    rw [neg_div]
    exact (natural n hm).neg

/-! ## The rounding error -/

theorem abs_rounded_sub_le_of_nonneg {q : ℚ} {k : Nat} (hk : f.precision ≤ f.scale + k)
    (hq : 0 ≤ q) (h : q ≤ 2 ^ k) : |f.rounded q - q| ≤ 2 ^ k / 2 ^ (f.precision + 1) := by
  obtain ⟨num, den, hden, rfl⟩ := f.exists_ratio hq
  obtain ⟨s, hs⟩ := Nat.exists_eq_add_of_le hk
  have hbound : num ≤ 2 ^ (f.precision + s) * den := by
    rw [div_le_iff₀ (by positivity)] at h
    have hpow : (2 : ℚ) ^ k * (den * 2 ^ f.scale) = 2 ^ (f.precision + s) * den := by
      rw [← hs, pow_add]
      ring
    rw [hpow] at h
    exact_mod_cast h
  obtain ⟨hlow, hhigh⟩ := nearest_error hden hbound
  have hlow' : 2 * ((f.nearest num den : ℚ) * den) ≤ 2 * num + den * 2 ^ s := by
    exact_mod_cast hlow
  have hhigh' : 2 * (num : ℚ) ≤ 2 * (f.nearest num den * den) + den * 2 ^ s := by
    exact_mod_cast hhigh
  have hden' : (0 : ℚ) < den := by exact_mod_cast hden
  have hunits : |(f.nearest num den : ℚ) - num / den| ≤ 2 ^ s / 2 := by
    have hcommon : (f.nearest num den : ℚ) - num / den = (f.nearest num den * den - num) / den := by
      field_simp
    rw [hcommon, abs_div, abs_of_pos hden', div_le_iff₀ hden', abs_le]
    constructor <;> linarith
  have hstep : (2 : ℚ) ^ k / 2 ^ (f.precision + 1) = 2 ^ s / 2 / 2 ^ f.scale := by
    rw [div_div, div_eq_div_iff (by positivity) (by positivity), ← pow_succ', ← pow_add, ← pow_add]
    congr 1
    omega
  rw [rounded_div f num hden, hstep, ← div_div, ← sub_div, abs_div,
    abs_of_pos (by positivity : (0 : ℚ) < 2 ^ f.scale)]
  exact div_le_div_of_nonneg_right hunits (by positivity)

/-- Up to `2 ^ k` a number moves by half a unit of the significand's last place at most. -/
theorem abs_rounded_sub_le {q : ℚ} {k : Nat} (hk : f.precision ≤ f.scale + k) (h : |q| ≤ 2 ^ k) :
    |f.rounded q - q| ≤ 2 ^ k / 2 ^ (f.precision + 1) := by
  rcases le_total 0 q with hq | hq
  · rw [abs_of_nonneg hq] at h
    exact abs_rounded_sub_le_of_nonneg hk hq h
  · rw [abs_of_nonpos hq] at h
    have hflip := abs_rounded_sub_le_of_nonneg hk (neg_nonneg.2 hq) h
    rw [rounded_neg, ← neg_add', abs_neg, ← sub_eq_add_neg] at hflip
    exact hflip

end Format

end StatusPanel
