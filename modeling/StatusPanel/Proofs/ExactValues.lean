import Mathlib.Data.Rat.Floor
import StatusPanel.Floating.Integer
import StatusPanel.Proofs.Rounding

/-!
# The exact values of floating-point numbers

A finite number has a rational value, and every number can be compared exactly with a rational one.
Each operation gives the exact result correctly rounded (`Rounds`); whether that is a finite number
and how it compares follows from the numbers of the format around the exact result.
-/

namespace StatusPanel

namespace Floating

variable {f g : Format}

/-- The value of a finite number. -/
def value? : Floating f → Option ℚ
  | .nan => none
  | .infinite _ => none
  | .finite s n _ => some (signed s n / 2 ^ f.scale)

/-- Is `x` at most `q`? NaN is not. -/
def AtMost : Floating f → ℚ → Prop
  | .nan, _ => False
  | .infinite s, _ => s = true
  | .finite s n _, q => (signed s n : ℚ) / 2 ^ f.scale ≤ q

/-- Is `x` at least `q`? NaN is not. -/
def AtLeast : Floating f → ℚ → Prop
  | .nan, _ => False
  | .infinite s, _ => s = false
  | .finite s n _, q => q ≤ (signed s n : ℚ) / 2 ^ f.scale

/-- Is `x` greater than `q`? NaN is not. -/
def Above : Floating f → ℚ → Prop
  | .nan, _ => False
  | .infinite s, _ => s = false
  | .finite s n _, q => q < (signed s n : ℚ) / 2 ^ f.scale

instance : (x : Floating f) → (q : ℚ) → Decidable (x.AtMost q)
  | .nan, _ => inferInstanceAs (Decidable False)
  | .infinite s, _ => inferInstanceAs (Decidable (s = true))
  | .finite s n _, q => inferInstanceAs (Decidable ((signed s n : ℚ) / 2 ^ f.scale ≤ q))

instance : (x : Floating f) → (q : ℚ) → Decidable (x.Above q)
  | .nan, _ => inferInstanceAs (Decidable False)
  | .infinite s, _ => inferInstanceAs (Decidable (s = false))
  | .finite s n _, q => inferInstanceAs (Decidable (q < (signed s n : ℚ) / 2 ^ f.scale))

/-- A number with a value is finite. -/
theorem exists_finite_of_value? {x : Floating f} {v : ℚ} (h : x.value? = some v) :
    ∃ s n hn, x = .finite s n hn ∧ v = signed s n / 2 ^ f.scale := by
  cases x with
  | nan => cases h
  | infinite s => cases h
  | finite s n hn => exact ⟨s, n, hn, rfl, (Option.some.inj h).symm⟩

theorem above_iff_of_value? {x : Floating f} {v q : ℚ} (h : x.value? = some v) :
    x.Above q ↔ q < v := by
  obtain ⟨s, n, hn, rfl, rfl⟩ := exists_finite_of_value? h
  rfl

theorem atMost_iff_of_value? {x : Floating f} {v q : ℚ} (h : x.value? = some v) :
    x.AtMost q ↔ v ≤ q := by
  obtain ⟨s, n, hn, rfl, rfl⟩ := exists_finite_of_value? h
  rfl

theorem AtLeast.above {x : Floating f} {q r : ℚ} (h : x.AtLeast r) (hqr : q < r) : x.Above q := by
  cases x with
  | nan => exact h
  | infinite s => exact h
  | finite s n hn => exact lt_of_lt_of_le hqr h

theorem AtMost.not_above {x : Floating f} {q r : ℚ} (h : x.AtMost q) (hqr : q ≤ r) :
    ¬x.Above r := by
  intro habove
  cases x with
  | nan => exact h
  | infinite s =>
    rw [show s = true from h] at habove
    cases habove
  | finite s n hn => exact absurd (h.trans hqr) (not_le.2 habove)

theorem Above.isNan {x : Floating f} {q : ℚ} (h : x.Above q) : x.isNan = false := by
  cases x with
  | nan => exact h.elim
  | infinite s => rfl
  | finite s n hn => rfl

/-- On numbers the exact comparisons exclude each other and leave nothing out. -/
theorem atMost_iff_not_above {x : Floating f} (hx : x.isNan = false) (q : ℚ) :
    x.AtMost q ↔ ¬x.Above q := by
  cases x with
  | nan => cases hx
  | infinite s => simp [AtMost, Above]
  | finite s n hn => exact not_lt.symm

end Floating

/-! ## The numbers of a format -/

namespace Format

variable {f : Format}

/-- A number of the format has the value `q`. -/
def Has (f : Format) (q : ℚ) : Prop :=
  ∃ x : Floating f, x.value? = some q

/-- The end of the format: every finite number lies below it. -/
def limit (f : Format) : ℚ :=
  2 ^ f.width / 2 ^ f.scale

theorem rounded_signed_div (f : Format) (negative : Bool) (num : Nat) {den : Nat} (hden : 0 < den) :
    f.rounded (Floating.signed negative num / (den * 2 ^ f.scale)) =
      Floating.signed negative (f.nearest num den) / 2 ^ f.scale := by
  cases negative with
  | false => exact rounded_div f num hden
  | true =>
    simp only [Floating.signed, if_true, Int.cast_neg, Int.cast_natCast, neg_div]
    rw [rounded_neg, rounded_div f num hden]

theorem Has.onGrid {q : ℚ} (h : f.Has q) : f.OnGrid q := by
  obtain ⟨x, hx⟩ := h
  obtain ⟨s, n, hn, -, rfl⟩ := Floating.exists_finite_of_value? hx
  have hround := rounded_signed_div f s n Nat.one_pos
  rw [← Nat.mul_one n, nearest_of_dvd Nat.one_pos hn.2, Nat.mul_one, Nat.cast_one, one_mul]
    at hround
  exact hround

theorem Has.width_pos {q : ℚ} (h : f.Has q) : 0 < f.width := by
  obtain ⟨x, hx⟩ := h
  obtain ⟨s, n, hn, -, -⟩ := Floating.exists_finite_of_value? hx
  exact Nat.zero_lt_of_lt hn.1

theorem Has.abs_lt {q : ℚ} (h : f.Has q) : |q| < f.limit := by
  obtain ⟨x, hx⟩ := h
  obtain ⟨s, n, hn, -, rfl⟩ := Floating.exists_finite_of_value? hx
  have hlt : n < 2 ^ f.width :=
    Nat.lt_of_lt_of_le Nat.lt_log2_self (Nat.pow_le_pow_right (by decide) hn.1)
  have habs : |((Floating.signed s n : ℤ) : ℚ)| = n := by
    cases s <;> simp [Floating.signed]
  rw [limit, abs_div, habs, abs_of_pos (by positivity : (0 : ℚ) < 2 ^ f.scale)]
  have hlt' : (n : ℚ) < 2 ^ f.width := by exact_mod_cast hlt
  gcongr

end Format

namespace Floating

variable {f g : Format}

/-! ## Correct rounding -/

/-- `x` is `q` correctly rounded: to the nearest number, or past the format's end. -/
def Rounds (x : Floating f) (q : ℚ) : Prop :=
  ∃ s num den, 0 < den ∧ (signed s num : ℚ) / ((den : Nat) * 2 ^ f.scale) = q ∧
    x = ofRatio s num den

namespace Rounds

variable {x : Floating f} {q r : ℚ}

theorem cases (hf : 0 < f.width) (h : x.Rounds q) :
    x.value? = some (f.rounded q) ∨
      (x = .infinite false ∧ f.limit ≤ f.rounded q) ∨
      (x = .infinite true ∧ f.rounded q ≤ -f.limit) := by
  obtain ⟨s, num, den, hden, rfl, rfl⟩ := h
  rw [f.rounded_signed_div s num hden]
  unfold ofRatio
  dsimp only
  split
  · exact .inl rfl
  · next hpast =>
    have hle : 2 ^ f.width ≤ f.nearest num den := by
      have hne : f.nearest num den ≠ 0 := by
        intro hzero
        rw [hzero] at hpast
        exact hpast hf
      exact Nat.le_trans (Nat.pow_le_pow_right (by decide) (Nat.le_of_not_lt hpast))
        (Nat.log2_self_le hne)
    have hlimit : f.limit ≤ f.nearest num den / 2 ^ f.scale := by
      have hle' : (2 : ℚ) ^ f.width ≤ f.nearest num den := by exact_mod_cast hle
      unfold Format.limit
      gcongr
    cases s with
    | false => exact .inr (.inl ⟨rfl, hlimit⟩)
    | true =>
      refine .inr (.inr ⟨rfl, ?_⟩)
      simp only [signed, if_true, Int.cast_neg, Int.cast_natCast, neg_div]
      exact neg_le_neg hlimit

/-- Between numbers of the format nothing is infinite. -/
theorem value? (h : x.Rounds q) (hr : f.Has r) (hq : |q| ≤ r) :
    x.value? = some (f.rounded q) := by
  have hlow := Format.le_rounded hr.onGrid.neg (abs_le.1 hq).1
  have hhigh := Format.rounded_le hr.onGrid (abs_le.1 hq).2
  have hlimit := abs_lt.1 hr.abs_lt
  rcases h.cases hr.width_pos with hv | ⟨-, hpast⟩ | ⟨-, hpast⟩
  · exact hv
  · linarith
  · linarith

/-- Rounding does not carry a number up across one of the format. -/
theorem atMost (h : x.Rounds q) (hr : f.Has r) (hq : q ≤ r) : x.AtMost r := by
  have hhigh := Format.rounded_le hr.onGrid hq
  have hlimit := abs_lt.1 hr.abs_lt
  rcases h.cases hr.width_pos with hv | ⟨-, hpast⟩ | ⟨rfl, -⟩
  · exact (atMost_iff_of_value? hv).2 hhigh
  · linarith
  · rfl

/-- Rounding does not carry a number down across one of the format. -/
theorem atLeast (h : x.Rounds q) (hr : f.Has r) (hq : r ≤ q) : x.AtLeast r := by
  have hlow := Format.le_rounded hr.onGrid hq
  have hlimit := abs_lt.1 hr.abs_lt
  rcases h.cases hr.width_pos with hv | ⟨rfl, -⟩ | ⟨-, hpast⟩
  · obtain ⟨s, n, hn, rfl, hvalue⟩ := exists_finite_of_value? hv
    exact hlow.trans_eq hvalue
  · rfl
  · linarith

/-- A result that rounding leaves as it is. -/
theorem value?_of_onGrid (h : x.Rounds q) (hf : 0 < f.width) (hq : f.OnGrid q)
    (hlt : |q| < f.limit) : x.value? = some q := by
  have hlimit := abs_lt.1 hlt
  have hexact := h.cases hf
  rw [hq] at hexact
  rcases hexact with hv | ⟨-, hpast⟩ | ⟨-, hpast⟩
  · exact hv
  · linarith
  · linarith

theorem value?_of_has (h : x.Rounds q) (hq : f.Has q) : x.value? = some q :=
  h.value?_of_onGrid hq.width_pos hq.onGrid hq.abs_lt

end Rounds

/-! ## Operations -/

variable {x y : Floating f} {a b : ℚ}

theorem signed_mul (s : Bool) (m n : Nat) : signed s (m * n) = signed s m * n := by
  cases s <;> simp [signed]

theorem signed_true_div_nonpos (n scale : Nat) : ((signed true n : ℤ) : ℚ) / 2 ^ scale ≤ 0 :=
  div_nonpos_of_nonpos_of_nonneg (by simp [signed]) (by positivity)

theorem signed_natAbs {s : Bool} {z : ℤ} (hneg : s = true → z ≤ 0) (hpos : s = false → 0 ≤ z) :
    signed s z.natAbs = z := by
  cases s with
  | false => exact Int.natAbs_of_nonneg (hpos rfl)
  | true =>
    have hz := hneg rfl
    show -(z.natAbs : ℤ) = z
    omega

theorem add_rounds (hx : x.value? = some a) (hy : y.value? = some b) : (x + y).Rounds (a + b) := by
  obtain ⟨s, m, hm, rfl, rfl⟩ := exists_finite_of_value? hx
  obtain ⟨t, n, hn, rfl, rfl⟩ := exists_finite_of_value? hy
  refine ⟨_, _, 1, Nat.one_pos, ?_, rfl⟩
  generalize hsum : signed s m + signed t n = sum
  rw [signed_natAbs (z := sum) (by grind) (by grind), ← hsum]
  push_cast
  ring

theorem value?_neg (hx : x.value? = some a) : x.neg.value? = some (-a) := by
  obtain ⟨s, m, hm, rfl, rfl⟩ := exists_finite_of_value? hx
  cases s <;> simp [neg, value?, signed, neg_div]

theorem sub_rounds (hx : x.value? = some a) (hy : y.value? = some b) : (x - y).Rounds (a - b) := by
  rw [sub_eq_add_neg]
  exact add_rounds hx (value?_neg hy)

theorem mul_rounds (hx : x.value? = some a) (hy : y.value? = some b) : (x * y).Rounds (a * b) := by
  obtain ⟨s, m, hm, rfl, rfl⟩ := exists_finite_of_value? hx
  obtain ⟨t, n, hn, rfl, rfl⟩ := exists_finite_of_value? hy
  refine ⟨_, _, 1 <<< f.scale, by rw [Nat.one_shiftLeft]; positivity, ?_, rfl⟩
  rw [Nat.one_shiftLeft]
  have hsign : signed (s != t) (m * n) = signed s m * signed t n := by
    cases s <;> cases t <;> simp [signed]
  rw [hsign, div_mul_div_comm]
  push_cast
  rfl

theorem div_rounds (hx : x.value? = some a) (hy : y.value? = some b) (hb : b ≠ 0) :
    (x / y).Rounds (a / b) := by
  obtain ⟨s, m, hm, rfl, rfl⟩ := exists_finite_of_value? hx
  obtain ⟨t, n, hn, rfl, rfl⟩ := exists_finite_of_value? hy
  have hn : n ≠ 0 := by
    rintro rfl
    simp [signed] at hb
  refine ⟨s != t, m <<< f.scale, n, Nat.pos_of_ne_zero hn, ?_, ?_⟩
  · rw [Nat.shiftLeft_eq, signed_mul]
    cases s <;> cases t <;> simp [signed, neg_div, div_neg] <;> field_simp
  · show div _ _ = _
    rw [div, if_neg hn]

theorem convert_rounds (hx : x.value? = some a) : (x.convert : Floating g).Rounds a := by
  obtain ⟨s, m, hm, rfl, rfl⟩ := exists_finite_of_value? hx
  refine ⟨_, _, 1 <<< f.scale, by rw [Nat.one_shiftLeft]; positivity, ?_, rfl⟩
  rw [Nat.one_shiftLeft, Nat.shiftLeft_eq]
  rw [signed_mul]
  push_cast
  rw [mul_div_mul_right _ _ (by positivity)]

/-- Converting a number to its own format leaves it as it is. -/
theorem convert_self (x : Floating f) : x.convert = x := by
  cases x with
  | nan => rfl
  | infinite s => rfl
  | finite s n hn =>
    have hunits : f.nearest (n <<< f.scale) (1 <<< f.scale) = n := by
      rw [Nat.one_shiftLeft, Nat.shiftLeft_eq]
      exact Format.nearest_of_dvd (by positivity) hn.2
    simp [convert, ofRatio, hunits, hn.1]

theorem less_iff_of_value? (hx : x.value? = some a) (hy : y.value? = some b) :
    x.less y = true ↔ a < b := by
  obtain ⟨s, m, hm, rfl, rfl⟩ := exists_finite_of_value? hx
  obtain ⟨t, n, hn, rfl, rfl⟩ := exists_finite_of_value? hy
  rw [div_lt_div_iff_of_pos_right (by positivity)]
  simp [less]

theorem lessEq_iff_of_value? (hx : x.value? = some a) (hy : y.value? = some b) :
    x.lessEq y = true ↔ a ≤ b := by
  obtain ⟨s, m, hm, rfl, rfl⟩ := exists_finite_of_value? hx
  obtain ⟨t, n, hn, rfl, rfl⟩ := exists_finite_of_value? hy
  rw [div_le_div_iff_of_pos_right (by positivity)]
  simp [lessEq]

theorem equal_iff_of_value? (hx : x.value? = some a) (hy : y.value? = some b) :
    x.equal y = true ↔ a = b := by
  rw [equal, Bool.and_eq_true, lessEq_iff_of_value? hx hy, lessEq_iff_of_value? hy hx,
    le_antisymm_iff]

theorem atMost_of_lessEq (hy : y.value? = some b) (h : x.lessEq y = true) : x.AtMost b := by
  obtain ⟨t, n, hn, rfl, rfl⟩ := exists_finite_of_value? hy
  cases x with
  | nan => cases h
  | infinite s => exact h
  | finite s m hm => exact (lessEq_iff_of_value? (x := finite s m hm) rfl rfl).1 h

theorem atLeast_of_lessEq (hx : x.value? = some a) (h : x.lessEq y = true) : y.AtLeast a := by
  obtain ⟨s, m, hm, rfl, rfl⟩ := exists_finite_of_value? hx
  cases y with
  | nan => cases h
  | infinite t =>
    cases t with
    | false => rfl
    | true => cases h
  | finite t n hn => exact (lessEq_iff_of_value? rfl (y := finite t n hn) rfl).1 h

/-! ## Whole numbers -/

theorem floorUnits_eq (f : Format) (units : ℤ) :
    floorUnits f units = ⌊(units : ℚ) / 2 ^ f.scale⌋ := by
  have h := Rat.floor_intCast_div_natCast units (2 ^ f.scale)
  push_cast at h
  rw [h, floorUnits, Int.shiftRight_eq_div_pow]
  norm_cast

/-- A whole number on the same side of zero as what it is rounded from. -/
theorem roundBy_rounds {toWhole : ℤ → ℤ} {s : Bool} {m : Nat} {hm : f.Representable m} {z : ℤ}
    (hz : toWhole (signed s m) = z) (hneg : s = true → z ≤ 0) (hpos : s = false → 0 ≤ z) :
    (roundBy toWhole (finite s m hm)).Rounds z := by
  refine ⟨s, z.natAbs <<< f.scale, 1, Nat.one_pos, ?_, ?_⟩
  · rw [Nat.shiftLeft_eq, signed_mul, signed_natAbs hneg hpos]
    push_cast
    field_simp
  · rw [← hz]
    rfl

theorem signed_false_div_nonneg (n scale : Nat) : 0 ≤ ((signed false n : ℤ) : ℚ) / 2 ^ scale :=
  div_nonneg (by simp [signed]) (by positivity)

theorem ceil_rounds (hx : x.value? = some a) : x.ceil.Rounds ⌈a⌉ := by
  obtain ⟨s, m, hm, rfl, rfl⟩ := exists_finite_of_value? hx
  refine roundBy_rounds ?_ ?_ ?_
  · rw [floorUnits_eq, Int.cast_neg, neg_div, Int.floor_neg, neg_neg]
  · rintro rfl
    exact Int.ceil_le.2 (by exact_mod_cast signed_true_div_nonpos m f.scale)
  · rintro rfl
    exact Int.ceil_nonneg (signed_false_div_nonneg m f.scale)

theorem floor_rounds (hx : x.value? = some a) : x.floor.Rounds ⌊a⌋ := by
  obtain ⟨s, m, hm, rfl, rfl⟩ := exists_finite_of_value? hx
  refine roundBy_rounds (floorUnits_eq f _) ?_ ?_
  · rintro rfl
    exact Int.floor_nonpos (signed_true_div_nonpos m f.scale)
  · rintro rfl
    exact Int.floor_nonneg.2 (signed_false_div_nonneg m f.scale)

/-- A number without its fraction. -/
def truncated (q : ℚ) : ℤ :=
  if q < 0 then ⌈q⌉ else ⌊q⌋

theorem truncated_of_nonneg {q : ℚ} (h : 0 ≤ q) : truncated q = ⌊q⌋ :=
  if_neg (not_lt.2 h)

theorem trunc_rounds (hx : x.value? = some a) : x.trunc.Rounds (truncated a) := by
  obtain ⟨s, m, hm, rfl, rfl⟩ := exists_finite_of_value? hx
  have hneg : ((signed s m : ℤ) : ℚ) / 2 ^ f.scale < 0 ↔ signed s m < 0 := by
    rw [div_lt_iff₀ (by positivity), zero_mul]
    exact Int.cast_lt_zero
  refine roundBy_rounds ?_ ?_ ?_
  · simp only [truncated, hneg, floorUnits_eq, Int.cast_neg, neg_div, Int.floor_neg, neg_neg]
  · rintro rfl
    have hnonpos := signed_true_div_nonpos m f.scale
    unfold truncated
    split
    · exact Int.ceil_le.2 (by exact_mod_cast hnonpos)
    · exact Int.floor_nonpos hnonpos
  · rintro rfl
    have hnonneg := signed_false_div_nonneg m f.scale
    rw [truncated_of_nonneg hnonneg]
    exact Int.floor_nonneg.2 hnonneg

/-- What is at most `m` becomes an integer that is at most `m`. -/
theorem toNat_toInt64_le {m : Nat} (h : x.AtMost m) : x.toInt64.toNat ≤ m := by
  cases x with
  | nan => exact h.elim
  | infinite s =>
    rw [show s = true from h]
    exact Nat.zero_le m
  | finite s n hn =>
    unfold toInt64 toRange
    dsimp only
    cases s with
    | true =>
      rw [if_pos rfl]
      generalize n >>> f.scale = whole
      omega
    | false =>
      have hle : n >>> f.scale ≤ m := by
        have hunits : (n : ℚ) ≤ 2 ^ f.scale * m := (div_le_iff₀' (by positivity)).1 h
        rw [Nat.shiftRight_eq_div_pow]
        exact Nat.div_le_of_le_mul (by exact_mod_cast hunits)
      rw [if_neg (by decide)]
      omega

/-- What is at least `m` becomes an integer that is at least `m`. -/
theorem le_toNat_toInt64 {m : Nat} (hm : m ≤ 0x7FFFFFFFFFFFFFFF) (h : x.AtLeast m) :
    m ≤ x.toInt64.toNat := by
  cases x with
  | nan => exact h.elim
  | infinite s =>
    rw [show s = false from h]
    exact hm
  | finite s n hn =>
    unfold toInt64 toRange
    dsimp only
    cases s with
    | true =>
      have hle : (m : ℚ) ≤ 0 := le_trans h (signed_true_div_nonpos n f.scale)
      have hzero : m = 0 := Nat.le_zero.1 (by exact_mod_cast hle)
      omega
    | false =>
      have hle : m ≤ n >>> f.scale := by
        have hunits : (m : ℚ) * 2 ^ f.scale ≤ n := (le_div_iff₀ (by positivity)).1 h
        rw [Nat.shiftRight_eq_div_pow]
        exact (Nat.le_div_iff_mul_le (by positivity)).2 (by exact_mod_cast hunits)
      rw [if_neg (by decide)]
      omega

end Floating

namespace Format

variable {f : Format}

/-! ## Some numbers of a format -/

/-- Fractions whose numerator fits the significand are numbers of the format. -/
theorem has_div_pow (hf : f.precision + f.scale < f.width) {m : ℤ} {k : Nat} (hk : k ≤ f.scale)
    (hm : m.natAbs ≤ 2 ^ f.precision) : f.Has (m / 2 ^ k) := by
  have hrounds : (Floating.ofRatio (decide (m < 0)) (m.natAbs * 2 ^ f.scale) (2 ^ k) :
      Floating f).Rounds (m / 2 ^ k) := by
    refine ⟨_, _, 2 ^ k, by positivity, ?_, rfl⟩
    rw [Floating.signed_mul, Floating.signed_natAbs (by simp; omega) (by simp)]
    push_cast
    rw [mul_div_mul_right _ _ (by positivity)]
  refine ⟨_, hrounds.value?_of_onGrid (Nat.zero_lt_of_lt hf) (onGrid_div_pow hk hm) ?_⟩
  have habs : |(m : ℚ)| ≤ 2 ^ f.precision := by
    rw [← Int.cast_abs, Int.abs_eq_natAbs]
    exact_mod_cast hm
  have hpow : (2 : ℚ) ^ f.precision * 2 ^ f.scale < 2 ^ f.width := by
    rw [← pow_add]
    exact pow_lt_pow_right₀ (by norm_num) hf
  rw [abs_div, abs_of_pos (by positivity : (0 : ℚ) < 2 ^ k), limit]
  calc |(m : ℚ)| / 2 ^ k
      ≤ |(m : ℚ)| := div_le_self (abs_nonneg _) (one_le_pow₀ (by norm_num))
    _ ≤ 2 ^ f.precision := habs
    _ < 2 ^ f.width / 2 ^ f.scale := (lt_div_iff₀ (by positivity)).2 hpow

theorem has_int (hf : f.precision + f.scale < f.width) {m : ℤ} (hm : m.natAbs ≤ 2 ^ f.precision) :
    f.Has m := by
  have h := has_div_pow hf (Nat.zero_le f.scale) hm
  rwa [pow_zero, div_one] at h

theorem single_has_div_pow {m : ℤ} {k : Nat} (hk : k ≤ 149) (hm : m.natAbs ≤ 2 ^ 24) :
    single.Has (m / 2 ^ k) :=
  has_div_pow (by decide) hk hm

theorem single_has_int {m : ℤ} (hm : m.natAbs ≤ 2 ^ 24) : single.Has m :=
  has_int (by decide) hm

theorem single_has_nat {n : Nat} (hn : n ≤ 2 ^ 24) : single.Has n :=
  single_has_int (m := n) hn

theorem single_rounded_one : single.rounded 1 = 1 :=
  Has.onGrid (by simpa using single_has_nat (n := 1) (by decide))

theorem single_rounded_le_one {q : ℚ} (h : q ≤ 1) : single.rounded q ≤ 1 :=
  rounded_le single_rounded_one h

theorem abs_single_rounded_sub_le {q : ℚ} (k : Nat) (h : |q| ≤ 2 ^ k) :
    |single.rounded q - q| ≤ 2 ^ k / 2 ^ 25 :=
  abs_rounded_sub_le (show 24 ≤ 149 + k by omega) h

end Format

namespace Floating

/-! ## Literals -/

theorem value?_literal (n : Nat) (h : n ≤ 2 ^ 24) :
    (OfNat.ofNat n : Single).value? = some ((OfNat.ofNat n : ℤ) : ℚ) := by
  have hrounds : (OfNat.ofNat n : Single).Rounds n :=
    ⟨false, n <<< Format.single.scale, 1, Nat.one_pos, by simp [Nat.shiftLeft_eq, signed], rfl⟩
  exact hrounds.value?_of_has (Format.single_has_nat h)

theorem isPositive_iff_of_value? {x : Single} {v : ℚ} (h : x.value? = some v) :
    x.isPositive = true ↔ 0 < v := by
  rw [isPositive, less_iff_of_value? (value?_literal 0 (by decide)) h, Int.cast_zero]

/-! ## Sums of integers -/

variable {x y : Single} {m n : ℤ}

theorem value?_add_int (hx : x.value? = some (m : ℚ)) (hy : y.value? = some (n : ℚ))
    (h : (m + n).natAbs ≤ 2 ^ 24) : (x + y).value? = some ((m + n : ℤ) : ℚ) := by
  refine Rounds.value?_of_has ?_ (Format.single_has_int h)
  rw [Int.cast_add]
  exact add_rounds hx hy

theorem value?_sub_int (hx : x.value? = some (m : ℚ)) (hy : y.value? = some (n : ℚ))
    (h : (m - n).natAbs ≤ 2 ^ 24) : (x - y).value? = some ((m - n : ℤ) : ℚ) := by
  refine Rounds.value?_of_has ?_ (Format.single_has_int h)
  rw [Int.cast_sub]
  exact sub_rounds hx hy

end Floating

end StatusPanel
