import StatusPanel.Proofs.ExactValues

/-!
# Whole parts of single-precision numbers

Taking a number apart into a whole number and a fraction is exact (`Floating.value?_trunc`,
`Floating.value?_fract`), and so is rounding it to a whole number up or down: beyond `2 ^ 23` there
are whole numbers only. What converts to an integer exactly, and what the lesser and the greater of
two numbers are, is told by their values.
-/

namespace StatusPanel

namespace Format

variable {f : Format}

/-! ## Whole numbers of the format -/

/-- Large numbers are whole. -/
theorem exists_int_of_le {q : ℚ} (h : single.Has q) (hq : 2 ^ 23 ≤ |q|) : ∃ m : ℤ, q = m := by
  obtain ⟨x, hx⟩ := h
  obtain ⟨s, n, hn, -, rfl⟩ := Floating.exists_finite_of_value? hx
  have hscale : single.scale = 149 := rfl
  rw [hscale] at hq ⊢
  have hlarge : 2 ^ 172 ≤ n := by
    rw [abs_div, abs_of_pos (by positivity : (0 : ℚ) < 2 ^ 149), le_div_iff₀ (by positivity),
      ← Int.cast_abs, Int.abs_eq_natAbs] at hq
    have habs : (Floating.signed s n).natAbs = n := by
      cases s <;> simp [Floating.signed]
    rw [habs, ← pow_add] at hq
    exact_mod_cast hq
  have hspacing : 149 ≤ single.spacing n := by
    have hlog := (Nat.le_log2 (by omega)).2 hlarge
    show 149 ≤ n.log2 + 1 - 24
    omega
  obtain ⟨m, rfl⟩ : 2 ^ 149 ∣ n := by
    refine Nat.dvd_trans ?_ hn.2
    rw [Nat.one_shiftLeft]
    exact Nat.pow_dvd_pow 2 hspacing
  refine ⟨Floating.signed s m, ?_⟩
  rw [Nat.mul_comm, Floating.signed_mul, Int.cast_mul, Int.cast_natCast, Nat.cast_pow,
    Nat.cast_ofNat, mul_div_cancel_right₀ _ (by positivity)]

/-- A whole number next to one of the format is one of the format. -/
theorem Has.int_of_near {q : ℚ} (h : single.Has q) {m : ℤ} (hm : |(m : ℚ) - q| < 1) :
    single.Has m := by
  rcases lt_or_ge |q| (2 ^ 23) with hsmall | hlarge
  · refine single_has_int ?_
    have hbound : |(m : ℚ)| < 2 ^ 24 := by
      have htriangle := abs_sub_abs_le_abs_sub (m : ℚ) q
      norm_num at hsmall ⊢
      linarith
    rw [← Int.cast_abs, Int.abs_eq_natAbs] at hbound
    have : m.natAbs < 2 ^ 24 := by exact_mod_cast hbound
    omega
  · obtain ⟨n, rfl⟩ := exists_int_of_le h hlarge
    have hdistance : |m - n| < 1 := by exact_mod_cast hm
    obtain rfl : m = n := sub_eq_zero.1 (Int.abs_lt_one_iff.1 hdistance)
    exact h

/-- A sum of whole numbers that is rounded to a moderate number was that number. -/
theorem single_rounded_int {m : ℤ} (h : |single.rounded m| < 2 ^ 24) : single.rounded m = m := by
  refine (single_has_int ?_).onGrid
  by_contra hlarge
  have hlarge := not_le.1 hlarge
  have hend : single.Has ((2 ^ 24 : Nat) : ℚ) := single_has_nat le_rfl
  push_cast at hend
  obtain ⟨hlow, hhigh⟩ := abs_lt.1 h
  rcases le_total 0 m with hm | hm
  · have : (2 : ℚ) ^ 24 ≤ m := by
      have : (2 ^ 24 : ℤ) ≤ m := by omega
      exact_mod_cast this
    linarith [le_rounded hend.onGrid this]
  · have : (m : ℚ) ≤ -2 ^ 24 := by
      have : m ≤ -2 ^ 24 := by omega
      exact_mod_cast this
    linarith [rounded_le hend.onGrid.neg this]

end Format

namespace Floating

variable {x y : Single} {a b : ℚ}

/-! ## Whole numbers and fractions -/

theorem value?_floor (hx : x.value? = some a) : x.floor.value? = some ((⌊a⌋ : ℤ) : ℚ) := by
  refine (floor_rounds hx).value?_of_has (Format.Has.int_of_near ⟨x, hx⟩ ?_)
  rw [abs_lt]
  constructor <;> linarith [Int.floor_le a, Int.lt_floor_add_one a]

theorem value?_ceil (hx : x.value? = some a) : x.ceil.value? = some ((⌈a⌉ : ℤ) : ℚ) := by
  refine (ceil_rounds hx).value?_of_has (Format.Has.int_of_near ⟨x, hx⟩ ?_)
  rw [abs_lt]
  constructor <;> linarith [Int.le_ceil a, Int.ceil_lt_add_one a]

theorem abs_truncated_sub_lt (q : ℚ) : |(truncated q : ℚ) - q| < 1 := by
  unfold truncated
  rw [abs_lt]
  split
  · constructor <;> linarith [Int.le_ceil q, Int.ceil_lt_add_one q]
  · constructor <;> linarith [Int.floor_le q, Int.lt_floor_add_one q]

theorem truncated_int (m : ℤ) : truncated m = m := by
  simp [truncated]

theorem truncated_neg (q : ℚ) : truncated (-q) = -truncated q := by
  unfold truncated
  rcases lt_trichotomy q 0 with hq | rfl | hq
  · rw [if_neg (by linarith), if_pos hq, Int.floor_neg]
  · simp
  · rw [if_pos (by linarith), if_neg (by linarith), Int.ceil_neg]

/-- On one side of zero a whole number is added to the whole part. -/
theorem truncated_add_int {q : ℚ} {m : ℤ} (h : q < 0 ↔ q + m < 0) :
    truncated (q + m) = truncated q + m := by
  unfold truncated
  by_cases hq : q < 0
  · rw [if_pos hq, if_pos (h.1 hq), Int.ceil_add_intCast]
  · rw [if_neg hq, if_neg fun hm => hq (h.2 hm), Int.floor_add_intCast]

theorem value?_trunc (hx : x.value? = some a) :
    x.trunc.value? = some ((truncated a : ℤ) : ℚ) :=
  (trunc_rounds hx).value?_of_has (Format.Has.int_of_near ⟨x, hx⟩ (abs_truncated_sub_lt a))

/-- What a number of units leaves beside whole numbers takes no more digits than the number. -/
theorem representable_mod {n : Nat} (h : Format.single.Representable n) :
    Format.single.Representable (n % 2 ^ 149) := by
  have hdvd := h.2
  rw [Nat.one_shiftLeft] at hdvd
  by_cases hzero : n % 2 ^ 149 = 0
  · rw [hzero]
    exact Format.representable_zero _ (by decide)
  · have hlt : n % 2 ^ 149 < 2 ^ Format.single.width :=
      (Nat.mod_lt n (by decide)).trans (Nat.pow_lt_pow_right (by decide) (by decide))
    refine ⟨(Nat.log2_lt hzero).2 hlt, ?_⟩
    have hfine : Format.single.spacing n ≤ 149 := by
      refine le_of_not_gt fun hcoarse => hzero ?_
      exact Nat.mod_eq_zero_of_dvd (Nat.dvd_trans (Nat.pow_dvd_pow 2 hcoarse.le) hdvd)
    rw [Nat.one_shiftLeft]
    refine Nat.dvd_trans (Nat.pow_dvd_pow 2 (Format.spacing_mono (Nat.mod_le n (2 ^ 149)))) ?_
    exact (Nat.dvd_mod_iff (Nat.pow_dvd_pow 2 hfine)).2 hdvd

/-- The fraction of a number has no more digits than the number. -/
theorem has_sub_truncated (h : Format.single.Has a) : Format.single.Has (a - truncated a) := by
  obtain ⟨x, hx⟩ := h
  obtain ⟨s, n, hn, -, rfl⟩ := exists_finite_of_value? hx
  have hscale : Format.single.scale = 149 := rfl
  have hrest := representable_mod hn
  refine ⟨finite s (n % 2 ^ 149) hrest, ?_⟩
  have hnatural : (n : ℚ) / 2 ^ 149 - truncated ((n : ℚ) / 2 ^ 149) =
      ((n % 2 ^ 149 : Nat) : ℚ) / 2 ^ 149 := by
    have hfloor := Rat.floor_intCast_div_natCast (n : ℤ) (2 ^ 149)
    rw [Int.cast_natCast, Nat.cast_pow, Nat.cast_ofNat, ← Int.natCast_ediv] at hfloor
    have hsplit : (2 : ℚ) ^ 149 * (n / 2 ^ 149 : Nat) + (n % 2 ^ 149 : Nat) = n := by
      exact_mod_cast Nat.div_add_mod n (2 ^ 149)
    rw [truncated_of_nonneg (by positivity), hfloor, eq_div_iff (by positivity), sub_mul,
      div_mul_cancel₀ _ (by positivity), Int.cast_natCast]
    linarith
  rw [hscale]
  cases s with
  | false =>
    simp only [value?, signed, hscale, Bool.false_eq_true, if_false, Int.cast_natCast] at hnatural ⊢
    rw [hnatural]
  | true =>
    simp only [value?, signed, hscale, if_true, Int.cast_neg, Int.cast_natCast, neg_div,
      truncated_neg] at hnatural ⊢
    rw [← hnatural]
    ring_nf

theorem value?_fract (hx : x.value? = some a) : x.fract.value? = some (a - truncated a) :=
  (sub_rounds hx (value?_trunc hx)).value?_of_has (has_sub_truncated ⟨x, hx⟩)

/-! ## Integers -/

/-- A whole number converts to an integer as it is, inside the range. -/
theorem toRange_of_value? {m : ℤ} (hx : x.value? = some (m : ℚ)) (low high : ℤ) :
    x.toRange low high = max low (min high m) := by
  obtain ⟨s, n, hn, rfl, hm⟩ := exists_finite_of_value? hx
  have hscale : Format.single.scale = 149 := rfl
  have hwhole : (if s then -((n >>> Format.single.scale : Nat) : ℤ)
      else (n >>> Format.single.scale : Nat)) = m := by
    rw [hscale] at hm ⊢
    have hunits : m * 2 ^ 149 = signed s n := by
      rw [eq_div_iff (by positivity)] at hm
      exact_mod_cast hm
    have habs : n = m.natAbs * 2 ^ 149 := by
      have := congrArg Int.natAbs hunits
      rw [Int.natAbs_mul] at this
      cases s <;> simpa [signed] using this.symm
    rw [Nat.shiftRight_eq_div_pow, habs, Nat.mul_div_cancel _ (by positivity)]
    cases s with
    | false =>
      have : 0 ≤ m * 2 ^ 149 := by
        rw [hunits]
        exact Int.natCast_nonneg n
      simp only [Bool.false_eq_true, if_false]
      omega
    | true =>
      have : m * 2 ^ 149 ≤ 0 := by
        rw [hunits]
        exact Int.neg_nonpos_of_nonneg (Int.natCast_nonneg n)
      simp only [if_true]
      omega
  rw [← hwhole]
  rfl

theorem toInt64_of_value? {m : ℤ} (hx : x.value? = some (m : ℚ)) (hm : |m| < 2 ^ 63) :
    x.toInt64 = m := by
  rw [abs_lt] at hm
  rw [toInt64, toRange_of_value? hx]
  omega

theorem toNat64_of_value? {m : ℤ} (hx : x.value? = some (m : ℚ)) (hm : m < 2 ^ 64) :
    x.toNat64 = m.toNat := by
  rw [toNat64, toRange_of_value? hx]
  omega

/-! ## The lesser and the greater number -/

theorem isNan_of_value? (hx : x.value? = some a) : x.isNan = false := by
  obtain ⟨s, n, hn, rfl, -⟩ := exists_finite_of_value? hx
  rfl

theorem value?_least (hx : x.value? = some a) (hy : y.value? = some b) :
    (x.least y).value? = some (min a b) := by
  unfold least
  rw [isNan_of_value? hx, if_neg (by decide)]
  by_cases h : b < a
  · rw [if_pos ((less_iff_of_value? hy hx).2 h), min_eq_right h.le, hy]
  · rw [if_neg fun hless => h ((less_iff_of_value? hy hx).1 hless), min_eq_left (not_lt.1 h), hx]

theorem value?_greatest (hx : x.value? = some a) (hy : y.value? = some b) :
    (x.greatest y).value? = some (max a b) := by
  unfold greatest
  rw [isNan_of_value? hx, if_neg (by decide)]
  by_cases h : a < b
  · rw [if_pos ((less_iff_of_value? hx hy).2 h), max_eq_right h.le, hy]
  · rw [if_neg fun hless => h ((less_iff_of_value? hx hy).1 hless), max_eq_left (not_lt.1 h), hx]

/-! ## Where a finite result comes from -/

theorem exists_value?_of_add (h : (x + y).value? = some a) :
    (∃ b, x.value? = some b) ∧ ∃ b, y.value? = some b := by
  cases x with
  | nan => cases h
  | infinite s =>
    cases y with
    | nan => cases h
    | infinite t =>
      exfalso
      change (if s == t then (infinite s : Single) else nan).value? = some a at h
      split at h <;> cases h
    | finite t n hn => cases h
  | finite s m hm =>
    cases y with
    | nan => cases h
    | infinite t => cases h
    | finite t n hn => exact ⟨⟨_, rfl⟩, _, rfl⟩

theorem exists_value?_of_roundBy {toWhole : ℤ → ℤ} (h : (roundBy toWhole x).value? = some a) :
    ∃ b, x.value? = some b := by
  cases x with
  | nan => cases h
  | infinite s => cases h
  | finite s n hn => exact ⟨_, rfl⟩

/-- A finite result is the exact one rounded. -/
theorem Rounds.eq_rounded {q : ℚ} (h : x.Rounds q) (hx : x.value? = some a) :
    a = Format.single.rounded q := by
  rcases h.cases (by decide) with hv | ⟨rfl, -⟩ | ⟨rfl, -⟩
  · exact Option.some.inj (hx.symm.trans hv)
  · cases hx
  · cases hx

end Floating

end StatusPanel
