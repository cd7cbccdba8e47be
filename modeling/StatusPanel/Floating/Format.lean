/-!
# Floating-point formats

A format counts magnitudes in units of its least positive number, so every finite number is a
whole number of units and rounding is a question about whole numbers. The main statement is that
`nearest` always lands on the format's grid (`spacing_dvd_nearest`).
-/

namespace StatusPanel

/-- The quotient rounded to the nearest whole number, a half going to the even neighbour. -/
def roundDiv (num den : Nat) : Nat :=
  let quotient := num / den
  let twice := 2 * (num % den)
  if twice < den || (twice == den && quotient % 2 == 0) then quotient else quotient + 1

theorem roundDiv_le (num den : Nat) : roundDiv num den ≤ num / den + 1 := by
  unfold roundDiv
  dsimp only
  split <;> omega

theorem div_le_roundDiv (num den : Nat) : num / den ≤ roundDiv num den := by
  unfold roundDiv
  dsimp only
  split <;> omega

/-- A binary floating-point format: significands of `precision` bits, magnitudes counted in units
of `2 ^ -scale`, all finite ones below `2 ^ width` units. -/
structure Format where
  precision : Nat
  scale : Nat
  width : Nat
  precision_pos : 0 < precision := by decide

namespace Format

/-- The 32-bit interchange format. -/
def single : Format where
  precision := 24
  scale := 149
  width := 277

/-- The 64-bit interchange format. -/
def double : Format where
  precision := 53
  scale := 1074
  width := 2098

/-- Near a magnitude of `n` units the format's numbers are `2 ^ spacing n` units apart. -/
def spacing (f : Format) (n : Nat) : Nat :=
  n.log2 + 1 - f.precision

/-- The magnitudes that the format has: on the grid, and below the format's end. -/
def Representable (f : Format) (n : Nat) : Prop :=
  n.log2 < f.width ∧ 1 <<< f.spacing n ∣ n

instance (f : Format) (n : Nat) : Decidable (f.Representable n) :=
  inferInstanceAs (Decidable (_ ∧ _))

/-- The point of the grid nearest to `num / den` units, a half going to the even neighbour. It may
lie past the format's end. -/
def nearest (f : Format) (num den : Nat) : Nat :=
  let spacing := f.spacing (num / den)
  roundDiv num (den <<< spacing) <<< spacing

theorem lt_shift_of_spacing_le {f : Format} {n s : Nat} (h : f.spacing n ≤ s) :
    n < 1 <<< (f.precision + s) := by
  have hl := @Nat.lt_log2_self n
  unfold spacing at h
  rw [Nat.one_shiftLeft]
  exact Nat.lt_of_lt_of_le hl (Nat.pow_le_pow_right (by decide) (by omega))

theorem spacing_le_of_lt {f : Format} {n s : Nat} (h : n < 1 <<< (f.precision + s)) :
    f.spacing n ≤ s := by
  have hp := f.precision_pos
  unfold spacing
  by_cases hn : n = 0
  · subst hn
    simp
    omega
  · rw [Nat.one_shiftLeft] at h
    have := (Nat.log2_lt hn).2 h
    omega

/-- Rounding at spacing `s` gives at most `2 ^ precision` steps of the grid. -/
theorem roundDiv_shift_le (f : Format) (num den : Nat) :
    roundDiv num (den <<< f.spacing (num / den)) ≤ 1 <<< f.precision := by
  refine Nat.le_trans (roundDiv_le _ _) ?_
  have h := lt_shift_of_spacing_le (Nat.le_refl (f.spacing (num / den)))
  rw [Nat.one_shiftLeft] at h ⊢
  rw [Nat.shiftLeft_eq, ← Nat.div_div_eq_div_mul]
  refine Nat.succ_le_of_lt (Nat.div_lt_of_lt_mul ?_)
  rwa [Nat.mul_comm, ← Nat.pow_add]

theorem spacing_dvd_shift {f : Format} {m s : Nat} (h : m ≤ 1 <<< f.precision) :
    1 <<< f.spacing (m <<< s) ∣ m <<< s := by
  rw [Nat.one_shiftLeft] at h ⊢
  rw [Nat.shiftLeft_eq]
  rcases Nat.lt_or_eq_of_le h with hlt | heq
  · have hs := @spacing_le_of_lt f (m <<< s) s (by
      rw [Nat.one_shiftLeft, Nat.shiftLeft_eq, Nat.pow_add]
      exact Nat.mul_lt_mul_of_pos_right hlt (Nat.two_pow_pos s))
    rw [Nat.shiftLeft_eq] at hs
    exact Nat.dvd_trans (Nat.pow_dvd_pow 2 hs) (Nat.dvd_mul_left _ _)
  · subst heq
    rw [← Nat.pow_add]
    apply Nat.pow_dvd_pow
    have hp := f.precision_pos
    unfold spacing
    rw [Nat.log2_two_pow]
    omega

theorem spacing_dvd_nearest (f : Format) (num den : Nat) :
    1 <<< f.spacing (f.nearest num den) ∣ f.nearest num den :=
  spacing_dvd_shift (roundDiv_shift_le f num den)

theorem representable_zero (f : Format) (h : 0 < f.width) : f.Representable 0 :=
  ⟨by simpa using h, Nat.dvd_zero _⟩

end Format

end StatusPanel
