import StatusPanel.Font.Coverage
import StatusPanel.Proofs.WholeParts

/-!
# Boxes of pixels

The box of the pixels that an outline may ink is computed with rounding, but where its edges are
moderate they are whole numbers, so it is a region of pixels. It moves with the outline by whole
pixels as long as the place of the outline keeps its side of zero (`Floating.movedBy_edge`), and an
outline inks no pixel outside its box (`Font.Outline.has_of_mem_inked`).
-/

namespace StatusPanel

/-! ## Regions -/

/-- A rectangle of pixels: its first column and row, and those after its last ones. -/
structure Region where
  left : ℤ := 0
  top : ℤ := 0
  right : ℤ := 0
  bottom : ℤ := 0

namespace Region

/-- The region has a pixel. -/
def Has (r : Region) (x y : ℤ) : Prop :=
  (r.left ≤ x ∧ x < r.right) ∧ r.top ≤ y ∧ y < r.bottom

/-- One region reaches as far as another one to each side. -/
structure Within (r t : Region) : Prop where
  left : t.left ≤ r.left
  top : t.top ≤ r.top
  right : r.right ≤ t.right
  bottom : r.bottom ≤ t.bottom

def shift (r : Region) (dx dy : ℤ) : Region :=
  ⟨r.left + dx, r.top + dy, r.right + dx, r.bottom + dy⟩

/-- The least region around two. -/
def join (r t : Region) : Region :=
  ⟨min r.left t.left, min r.top t.top, max r.right t.right, max r.bottom t.bottom⟩

/-- No edge is so far off that whole numbers are rounded there. -/
structure Moderate (r : Region) : Prop where
  left : |r.left| < 2 ^ 22
  top : |r.top| < 2 ^ 22
  right : |r.right| < 2 ^ 22
  bottom : |r.bottom| < 2 ^ 22

variable {r t u : Region}

theorem Within.refl (r : Region) : r.Within r :=
  ⟨le_rfl, le_rfl, le_rfl, le_rfl⟩

theorem Within.has (h : r.Within t) {x y : ℤ} (hr : r.Has x y) : t.Has x y :=
  ⟨⟨h.left.trans hr.1.1, hr.1.2.trans_le h.right⟩, h.top.trans hr.2.1, hr.2.2.trans_le h.bottom⟩

theorem Within.shift (h : r.Within t) (dx dy : ℤ) : (r.shift dx dy).Within (t.shift dx dy) where
  left := Int.add_le_add_right h.left dx
  top := Int.add_le_add_right h.top dy
  right := Int.add_le_add_right h.right dx
  bottom := Int.add_le_add_right h.bottom dy

theorem join_within_iff : (r.join t).Within u ↔ r.Within u ∧ t.Within u := by
  constructor
  · rintro ⟨hleft, htop, hright, hbottom⟩
    have hleft := le_min_iff.1 hleft
    have htop := le_min_iff.1 htop
    have hright := max_le_iff.1 hright
    have hbottom := max_le_iff.1 hbottom
    exact ⟨⟨hleft.1, htop.1, hright.1, hbottom.1⟩, ⟨hleft.2, htop.2, hright.2, hbottom.2⟩⟩
  · rintro ⟨hr, ht⟩
    exact ⟨le_min hr.left ht.left, le_min hr.top ht.top, max_le hr.right ht.right,
      max_le hr.bottom ht.bottom⟩

/-- The least region around some regions lies within whatever all of them lie within. -/
theorem foldl_join_within_iff (rest : List Region) (first : Region) :
    (rest.foldl join first).Within u ↔ ∀ r ∈ first :: rest, r.Within u := by
  induction rest generalizing first with
  | nil => simp
  | cons next rest ih =>
    rw [List.foldl_cons, ih]
    simp [join_within_iff, and_assoc]

theorem Moderate.join (hr : r.Moderate) (ht : t.Moderate) : (r.join t).Moderate := by
  obtain ⟨hleft, htop, hright, hbottom⟩ := hr
  obtain ⟨hleft', htop', hright', hbottom'⟩ := ht
  rw [abs_lt] at *
  constructor <;> simp only [Region.join, abs_lt] <;> omega

theorem Moderate.foldl_join {rest : List Region} {first : Region}
    (h : ∀ r ∈ first :: rest, r.Moderate) : (rest.foldl Region.join first).Moderate := by
  induction rest generalizing first with
  | nil => exact h first List.mem_cons_self
  | cons next rest ih =>
    obtain ⟨hfirst, hrest⟩ := List.forall_mem_cons.1 h
    obtain ⟨hnext, hrest⟩ := List.forall_mem_cons.1 hrest
    exact ih (List.forall_mem_cons.2 ⟨hfirst.join hnext, hrest⟩)

end Region

/-! ## Edges -/

namespace Floating

/-- The number is finite, and small enough for fractions of a pixel. -/
def Moderate (x : Single) : Prop :=
  ∃ v, x.value? = some v ∧ |v| < 2 ^ 22

/-- One number is greater than the other by a whole number, exactly. -/
def MovedBy (x : Single) (d : ℤ) (y : Single) : Prop :=
  ∃ v, x.value? = some v ∧ y.value? = some (v + d)

theorem MovedBy.value? {x y : Single} {d : ℤ} {v : ℚ} (h : x.MovedBy d y)
    (hx : x.value? = some v) : y.value? = some (v + d) := by
  obtain ⟨u, hu, hy⟩ := h
  obtain rfl : u = v := Option.some.inj (hu.symm.trans hx)
  exact hy

instance (x : Single) : Decidable x.Moderate :=
  match h : x.value? with
  | none => isFalse fun ⟨_, hv, _⟩ => by cases h.symm.trans hv
  | some v =>
    decidable_of_iff (|v| < 2 ^ 22)
      ⟨fun hsmall => ⟨v, h, hsmall⟩, fun ⟨_, hu, hsmall⟩ => by
        cases h.symm.trans hu
        exact hsmall⟩

instance (x : Single) (d : ℤ) (y : Single) : Decidable (x.MovedBy d y) :=
  match h : x.value? with
  | none => isFalse fun ⟨_, hv, _⟩ => by cases h.symm.trans hv
  | some v =>
    decidable_of_iff (y.value? = some (v + d))
      ⟨fun hy => ⟨v, h, hy⟩, fun hy => hy.value? h⟩

/-- A number keeps its fraction when `d` is added. -/
def Steady (x : Single) (d : ℤ) : Prop :=
  ∀ v, x.value? = some v → truncated (v + d) = truncated v + d

/-- A number that does not cross zero keeps its fraction. -/
theorem MovedBy.steady {x y : Single} {d : ℤ} (h : x.MovedBy d y) (hside : x.less 0 = y.less 0) :
    x.Steady d := by
  intro v hv
  have hzero := value?_literal 0 (by decide)
  have hx := less_iff_of_value? hv hzero
  have hy := less_iff_of_value? (h.value? hv) hzero
  rw [Int.cast_zero] at hx hy
  exact truncated_add_int (by rw [← hx, ← hy, hside])

theorem steady_of_int {x : Single} {m : ℤ} (h : x.value? = some (m : ℚ)) (d : ℤ) :
    x.Steady d := by
  intro v hv
  obtain rfl : v = m := Option.some.inj (hv.symm.trans h)
  rw [← Int.cast_add, truncated_int, truncated_int]

/-- Rounding to a whole number, which is exact. -/
structure WholeBy (round : Single → Single) (whole : ℚ → ℤ) : Prop where
  value? : ∀ {x : Single} {v : ℚ}, x.value? = some v → (round x).value? = some (whole v : ℚ)
  finite : ∀ {x : Single} {v : ℚ}, (round x).value? = some v → ∃ u, x.value? = some u

theorem wholeBy_floor : WholeBy floor Int.floor :=
  ⟨value?_floor, exists_value?_of_roundBy⟩

theorem wholeBy_ceil : WholeBy ceil Int.ceil :=
  ⟨value?_ceil, exists_value?_of_roundBy⟩

variable {round : Single → Single} {whole : ℚ → ℤ} {z p q : Single} {d : ℤ} {u v : ℚ}

/-- A moderate edge is the sum of two whole numbers, one rounded from the outline and the fraction
of its place, the other the whole part of its place. -/
theorem exists_value?_edge (h : WholeBy round whole) (hp : p.value? = some v)
    (he : (round (z + p.fract) + p.trunc).value? = some u) (hu : |u| < 2 ^ 22) :
    ∃ w, (z + p.fract).value? = some w ∧ u = ((whole w + truncated v : ℤ) : ℚ) := by
  obtain ⟨⟨e, he'⟩, -⟩ := exists_value?_of_add he
  obtain ⟨w, hw⟩ := h.finite he'
  have hsum := add_rounds (h.value? hw) (value?_trunc hp)
  rw [← Int.cast_add] at hsum
  have hrounded := hsum.eq_rounded he
  refine ⟨w, hw, ?_⟩
  rw [hrounded, Format.single_rounded_int]
  rw [hrounded] at hu
  exact hu.trans (by norm_num)

theorem exists_int_edge (h : WholeBy round whole)
    (he : (round (z + p.fract) + p.trunc).Moderate) :
    ∃ m : ℤ, (round (z + p.fract) + p.trunc).value? = some (m : ℚ) := by
  obtain ⟨u, hu, hsmall⟩ := he
  obtain ⟨-, t, ht⟩ := exists_value?_of_add hu
  obtain ⟨v, hv⟩ := exists_value?_of_roundBy ht
  obtain ⟨w, -, rfl⟩ := exists_value?_edge h hv hu hsmall
  exact ⟨_, hu⟩

/-- **An edge moves with the place**, where the fraction of the place stays. -/
theorem movedBy_edge (h : WholeBy round whole) (hpq : p.MovedBy d q) (hsteady : p.Steady d)
    (hp : (round (z + p.fract) + p.trunc).Moderate)
    (hq : (round (z + q.fract) + q.trunc).Moderate) :
    (round (z + p.fract) + p.trunc).MovedBy d (round (z + q.fract) + q.trunc) := by
  obtain ⟨v, hpv, hqv⟩ := hpq
  obtain ⟨e, he, hsmall⟩ := hp
  obtain ⟨e', he', hsmall'⟩ := hq
  obtain ⟨w, hw, rfl⟩ := exists_value?_edge h hpv he hsmall
  obtain ⟨w', hw', rfl⟩ := exists_value?_edge h hqv he' hsmall'
  obtain ⟨⟨b, hb⟩, -⟩ := exists_value?_of_add hw
  -- the same sum is rounded before the whole part is added
  have hfract := value?_fract hqv
  have hsame : v + d - truncated (v + d) = v - truncated v := by
    rw [hsteady v hpv]
    push_cast
    ring
  rw [hsame] at hfract
  have hrounded := (add_rounds hb (value?_fract hpv)).eq_rounded hw
  have hrounded' := (add_rounds hb hfract).eq_rounded hw'
  refine ⟨_, he, he'.trans ?_⟩
  rw [hrounded', ← hrounded, hsteady v hpv, ← Int.cast_add]
  congr 2
  ring

end Floating

/-! ## Boxes -/

namespace PixelBox

/-- The region of a box. -/
def region (b : PixelBox) : Region :=
  ⟨b.left.toInt64, b.top.toInt64, b.right.toInt64, b.bottom.toInt64⟩

/-- The edges of a box are those of a region. -/
structure Is (b : PixelBox) (r : Region) : Prop where
  left : b.left.value? = some (r.left : ℚ)
  top : b.top.value? = some (r.top : ℚ)
  right : b.right.value? = some (r.right : ℚ)
  bottom : b.bottom.value? = some (r.bottom : ℚ)

structure Moderate (b : PixelBox) : Prop where
  left : b.left.Moderate
  top : b.top.Moderate
  right : b.right.Moderate
  bottom : b.bottom.Moderate

instance (b : PixelBox) : Decidable b.Moderate :=
  decidable_of_iff
    (b.left.Moderate ∧ b.top.Moderate ∧ b.right.Moderate ∧ b.bottom.Moderate)
    ⟨fun ⟨left, top, right, bottom⟩ => ⟨left, top, right, bottom⟩,
      fun ⟨left, top, right, bottom⟩ => ⟨left, top, right, bottom⟩⟩

variable {b c : PixelBox} {r t : Region}

theorem Is.join (hb : b.Is r) (hc : c.Is t) : (b.join c).Is (r.join t) where
  left := by
    rw [Region.join, Int.cast_min]
    exact Floating.value?_least hb.left hc.left
  top := by
    rw [Region.join, Int.cast_min]
    exact Floating.value?_least hb.top hc.top
  right := by
    rw [Region.join, Int.cast_max]
    exact Floating.value?_greatest hb.right hc.right
  bottom := by
    rw [Region.join, Int.cast_max]
    exact Floating.value?_greatest hb.bottom hc.bottom

theorem Is.foldl_join {rest : List PixelBox} {first : PixelBox} (hb : first.Is r)
    (h : ∀ b ∈ rest, b.Is b.region) :
    (rest.foldl PixelBox.join first).Is ((rest.map region).foldl Region.join r) := by
  induction rest generalizing first r with
  | nil => exact hb
  | cons next rest ih =>
    obtain ⟨hnext, hrest⟩ := List.forall_mem_cons.1 h
    exact ih (hb.join hnext) hrest

/-- What is known of an edge that is a whole number. -/
theorem abs_lt_of_moderate {x : Single} {m : ℤ} (hx : x.Moderate) (hm : x.value? = some (m : ℚ)) :
    |m| < 2 ^ 22 := by
  obtain ⟨v, hv, hsmall⟩ := hx
  obtain rfl : v = m := Option.some.inj (hv.symm.trans hm)
  exact_mod_cast hsmall

theorem Is.moderate (h : b.Is r) (hb : b.Moderate) : r.Moderate where
  left := abs_lt_of_moderate hb.left h.left
  top := abs_lt_of_moderate hb.top h.top
  right := abs_lt_of_moderate hb.right h.right
  bottom := abs_lt_of_moderate hb.bottom h.bottom

theorem Is.region_eq (h : b.Is r) (hr : r.Moderate) : b.region = r := by
  have far {m : ℤ} (hm : |m| < 2 ^ 22) : |m| < 2 ^ 63 := hm.trans (by norm_num)
  rw [region, Floating.toInt64_of_value? h.left (far hr.left),
    Floating.toInt64_of_value? h.top (far hr.top),
    Floating.toInt64_of_value? h.right (far hr.right),
    Floating.toInt64_of_value? h.bottom (far hr.bottom)]

/-- The edges of the second box are those of the first, moved by whole numbers. -/
structure MovedBy (b : PixelBox) (dx dy : ℤ) (c : PixelBox) : Prop where
  left : b.left.MovedBy dx c.left
  top : b.top.MovedBy dy c.top
  right : b.right.MovedBy dx c.right
  bottom : b.bottom.MovedBy dy c.bottom

theorem Is.shift (h : b.Is r) {dx dy : ℤ} (hc : b.MovedBy dx dy c) : c.Is (r.shift dx dy) where
  left := by
    rw [Region.shift, Int.cast_add]
    exact hc.left.value? h.left
  top := by
    rw [Region.shift, Int.cast_add]
    exact hc.top.value? h.top
  right := by
    rw [Region.shift, Int.cast_add]
    exact hc.right.value? h.right
  bottom := by
    rw [Region.shift, Int.cast_add]
    exact hc.bottom.value? h.bottom

end PixelBox

namespace Font

/-- **A moderate box is a region**, wherever its outline is. -/
theorem Bounds.is_region (b : Bounds) {scale : Single} {place : Point}
    (h : (b.pixelBox scale place).Moderate) :
    (b.pixelBox scale place).Is (b.pixelBox scale place).region := by
  obtain ⟨left, hleft⟩ := Floating.exists_int_edge Floating.wholeBy_floor h.left
  obtain ⟨top, htop⟩ := Floating.exists_int_edge Floating.wholeBy_floor h.top
  obtain ⟨right, hright⟩ := Floating.exists_int_edge Floating.wholeBy_ceil h.right
  obtain ⟨bottom, hbottom⟩ := Floating.exists_int_edge Floating.wholeBy_ceil h.bottom
  have his : (b.pixelBox scale place).Is ⟨left, top, right, bottom⟩ :=
    ⟨hleft, htop, hright, hbottom⟩
  rw [his.region_eq (his.moderate h)]
  exact his

/-- **A box moves with its outline** by whole pixels, if its edges are moderate before and after.
Where the outline crosses the zero of its line, the edges on that line may be rounded otherwise, and
have to be compared. -/
theorem Bounds.pixelBox_movedBy (b : Bounds) {scale : Single} {p q : Point} {dx dy : ℤ}
    (hx : p.x.MovedBy dx q.x) (hy : p.y.MovedBy dy q.y) (hrows : p.y.Steady dy)
    (hcolumns : p.x.less 0 ≠ q.x.less 0 →
      (b.pixelBox scale p).left.MovedBy dx (b.pixelBox scale q).left ∧
        (b.pixelBox scale p).right.MovedBy dx (b.pixelBox scale q).right)
    (hp : (b.pixelBox scale p).Moderate) (hq : (b.pixelBox scale q).Moderate) :
    (b.pixelBox scale p).MovedBy dx dy (b.pixelBox scale q) := by
  have htop := Floating.movedBy_edge Floating.wholeBy_floor hy hrows hp.top hq.top
  have hbottom := Floating.movedBy_edge Floating.wholeBy_ceil hy hrows hp.bottom hq.bottom
  by_cases hside : p.x.less 0 = q.x.less 0
  · have hsteady := hx.steady hside
    exact ⟨Floating.movedBy_edge Floating.wholeBy_floor hx hsteady hp.left hq.left, htop,
      Floating.movedBy_edge Floating.wholeBy_ceil hx hsteady hp.right hq.right, hbottom⟩
  · obtain ⟨hleft, hright⟩ := hcolumns hside
    exact ⟨hleft, htop, hright, hbottom⟩

/-! ## Ink -/

namespace Coverage

theorem size_line (c : Coverage) (p q : Point) :
    (c.line p q).width = c.width ∧ (c.line p q).height = c.height := by
  unfold line
  split
  · exact ⟨rfl, rfl⟩
  · exact ⟨rfl, rfl⟩

theorem size_lines (c : Coverage) (p : Point) (points : List Point) :
    (c.lines p points).width = c.width ∧ (c.lines p points).height = c.height := by
  induction points generalizing c p with
  | nil => exact ⟨rfl, rfl⟩
  | cons q rest ih =>
    obtain ⟨hwidth, hheight⟩ := c.size_line p q
    rw [← hwidth, ← hheight]
    exact ih (c.line p q) q

theorem size_curve (c : Coverage) (move : Point → Point) (piece : Curve) :
    (c.curve move piece).width = c.width ∧ (c.curve move piece).height = c.height := by
  cases piece with
  | line p q => exact c.size_line _ _
  | quadratic p b q => exact c.size_lines _ _

theorem size_foldl_curve (c : Coverage) (move : Point → Point) (pieces : List Curve) :
    let last := pieces.foldl (fun c piece => c.curve move piece) c
    last.width = c.width ∧ last.height = c.height := by
  induction pieces generalizing c with
  | nil => exact ⟨rfl, rfl⟩
  | cons piece rest ih =>
    obtain ⟨hwidth, hheight⟩ := c.size_curve move piece
    rw [← hwidth, ← hheight]
    exact ih (c.curve move piece)

theorem length_sums (before : Single) (changes : List Single) :
    (sums before changes).length = changes.length := by
  induction changes generalizing before with
  | nil => rfl
  | cons change rest ih => simp [sums, ih]

/-- Only pixels of the box are inked. -/
theorem lt_of_mem_inked {c : Coverage} {i : Nat} (h : i ∈ c.inked) : i < c.width * c.height := by
  obtain ⟨⟨area, j⟩, hmem, rfl⟩ := List.mem_map.1 h
  have hlt := (List.mem_zipIdx (List.mem_filter.1 hmem).1).2.1
  rw [length_sums, List.length_take] at hlt
  dsimp only
  omega

end Coverage

/-- **An outline inks no pixel outside its box.** -/
theorem Outline.has_of_mem_inked {o : Outline} {scale : Single} {place : Point} {r : Region}
    (h : (o.bounds.pixelBox scale place).Is r) (hr : r.Moderate) {x y : ℤ}
    (hmem : (x, y) ∈ o.inked scale place) : r.Has x y := by
  obtain ⟨hleft, htop, hright, hbottom⟩ := hr
  rw [abs_lt] at hleft htop hright hbottom
  have hwidth := Floating.toNat64_of_value? (Floating.value?_sub_int h.right h.left (by omega))
    (by omega)
  have hheight := Floating.toNat64_of_value? (Floating.value?_sub_int h.bottom h.top (by omega))
    (by omega)
  have hx := Floating.toInt64_of_value? h.left (by rw [abs_lt]; omega)
  have hy := Floating.toInt64_of_value? h.top (by rw [abs_lt]; omega)
  unfold inked at hmem
  simp only [hwidth, hheight, hx, hy] at hmem
  obtain ⟨i, hi, heq⟩ := List.mem_map.1 hmem
  have hlt := Coverage.lt_of_mem_inked hi
  rw [(Coverage.size_foldl_curve _ _ _).1, (Coverage.size_foldl_curve _ _ _).2] at hlt
  simp only [Coverage.empty] at hlt
  generalize hcolumns : (r.right - r.left).toNat = columns at hlt heq
  generalize hrows : (r.bottom - r.top).toNat = rows at hlt
  obtain ⟨rfl, rfl⟩ := Prod.mk.inj heq
  have hpositive : 0 < columns := Nat.pos_of_mul_pos_right (Nat.zero_lt_of_lt hlt)
  have hcolumn := Nat.mod_lt i hpositive
  have hrow : i / columns < rows := Nat.div_lt_of_lt_mul hlt
  generalize i % columns = column at hcolumn ⊢
  generalize i / columns = row at hrow ⊢
  refine ⟨⟨?_, ?_⟩, ?_, ?_⟩ <;> omega

end Font

end StatusPanel
