import Mathlib.Algebra.BigOperators.Group.Finset.Sigma
import Mathlib.Algebra.GroupWithZero.Nat
import StatusPanel.Panel
import StatusPanel.Proofs.Overpainting

/-!
# Pages as an encoding

The pages of a panel tell which of its segments are lit, and nothing else. Each segment has a bit of
its own (`getElem?_strips`, `testBit_strip`), so the panel is read off its pages (`ofPages_strips`);
every byte string of the right length is the pages of a panel (`strips_ofPages`); and as many bits
are set as segments are lit (`sum_bitCount_strips`).
-/

namespace StatusPanel

/-! ## Lists put together from lists of one length -/

theorem length_flatMap_range {α : Type} {f : Nat → List α} {count size : Nat}
    (h : ∀ i < count, (f i).length = size) :
    ((List.range count).flatMap f).length = count * size := by
  induction count with
  | zero => simp
  | succ count ih =>
    rw [List.range_succ, List.flatMap_append, List.flatMap_singleton, List.length_append,
      ih fun i hi => h i (Nat.lt_succ_of_lt hi), h count (Nat.lt_succ_self count), Nat.succ_mul]

theorem getElem?_flatMap_range {α : Type} {f : Nat → List α} {count size : Nat}
    (h : ∀ i < count, (f i).length = size) {i j : Nat} (hi : i < count) (hj : j < size) :
    ((List.range count).flatMap f)[i * size + j]? = (f i)[j]? := by
  induction count with
  | zero => exact absurd hi (Nat.not_lt_zero i)
  | succ count ih =>
    have hfront := length_flatMap_range fun i hi => h i (Nat.lt_succ_of_lt hi)
    rw [List.range_succ, List.flatMap_append, List.flatMap_singleton]
    rcases Nat.lt_or_eq_of_le (Nat.le_of_lt_succ hi) with hlt | rfl
    · have hrow : (i + 1) * size ≤ count * size := Nat.mul_le_mul_right _ hlt
      rw [Nat.succ_mul] at hrow
      rw [List.getElem?_append_left (by omega)]
      exact ih (fun i hi => h i (Nat.lt_succ_of_lt hi)) hlt
    · rw [List.getElem?_append_right (by omega), hfront, Nat.add_sub_cancel_left]

namespace Panel

/-! ## Bits -/

theorem ofBits_cons (bit : Bool) (rest : List Bool) :
    ofBits (bit :: rest) = bit.toNat + 2 * ofBits rest := rfl

theorem ofBits_lt (bits : List Bool) : ofBits bits < 2 ^ bits.length := by
  induction bits with
  | nil => decide
  | cons bit rest ih =>
    have hbit := bit.toNat_le
    rw [ofBits_cons, List.length_cons, Nat.pow_succ]
    omega

theorem testBit_ofBits (bits : List Bool) (i : Nat) :
    (ofBits bits).testBit i = bits[i]?.getD false := by
  induction bits generalizing i with
  | nil => simp [ofBits]
  | cons bit rest ih =>
    rw [ofBits_cons]
    cases i with
    | zero => cases bit <;> simp [Nat.testBit_zero]
    | succ i =>
      have hhalf : (bit.toNat + 2 * ofBits rest) / 2 = ofBits rest := by
        have hbit : bit.toNat < 2 := bit.toNat_lt
        omega
      rw [Nat.testBit_succ, hhalf, ih, List.getElem?_cons_succ]

/-- Each bit of a column is a segment of its page. -/
theorem testBit_strip (p : Panel) (chip page column : Nat) {row : Nat} (h : row < pageHeight) :
    (p.strip chip page column).toNat.testBit row = p.isLit (segment chip page column row) := by
  have hlt := ofBits_lt ((List.range pageHeight).map fun row =>
    p.isLit (segment chip page column row))
  rw [List.length_map, List.length_range, show 2 ^ pageHeight = 2 ^ 8 from rfl] at hlt
  unfold strip
  rw [UInt8.toNat_ofNat', Nat.mod_eq_of_lt hlt, testBit_ofBits, List.getElem?_map,
    List.getElem?_range h]
  rfl

/-- Bytes are told by their bits. -/
theorem ext_testBit {a b : UInt8}
    (h : ∀ row < pageHeight, a.toNat.testBit row = b.toNat.testBit row) : a = b := by
  apply UInt8.toNat_inj.1
  apply Nat.eq_of_testBit_eq
  intro i
  by_cases hi : i < pageHeight
  · exact h i hi
  · have hhigh : 2 ^ 8 ≤ 2 ^ i := Nat.pow_le_pow_right (by decide) (Nat.le_of_not_lt hi)
    rw [Nat.testBit_lt_two_pow (Nat.lt_of_lt_of_le a.toNat_lt hhigh),
      Nat.testBit_lt_two_pow (Nat.lt_of_lt_of_le b.toNat_lt hhigh)]

/-! ## Segments -/

theorem isLit_of_lt (p : Panel) {x y : Nat} (hx : x < p.width) (hy : y < p.height) :
    p.isLit (x, y) = p.lit[p.index (x, y)]?.getD false := by
  simp [isLit, hx, hy]

/-- There are no segments outside the panel. -/
theorem isLit_of_not_lt (p : Panel) {x y : Nat} (h : ¬(x < p.width ∧ y < p.height)) :
    p.isLit (x, y) = false := by
  rw [not_and_or] at h
  rcases h with h | h <;> simp [isLit, h]

/-- The segments are numbered without a gap. -/
theorem lit_eq_isLit (p : Panel) {i : Nat} (h : i < p.width * p.height) :
    p.lit[i]?.getD false = p.isLit (i % p.width, i / p.width) := by
  have hpos : 0 < p.width := Nat.pos_of_mul_pos_right (Nat.zero_lt_of_lt h)
  rw [p.isLit_of_lt (Nat.mod_lt _ hpos) (Nat.div_lt_of_lt_mul h)]
  simp only [index, Nat.div_add_mod']

/-- Panels of one size with the same lit segments are the same. -/
theorem ext_isLit {p q : Panel} (hw : p.width = q.width) (hh : p.height = q.height)
    (h : ∀ x < p.width, ∀ y < p.height, p.isLit (x, y) = q.isLit (x, y)) : p = q := by
  have hlit : p.lit = q.lit := by
    apply Array.ext (by rw [p.size_lit, q.size_lit, hw, hh])
    intro i hp hq
    have hi : i < p.width * p.height := by rwa [← p.size_lit]
    have hpos : 0 < p.width := Nat.pos_of_mul_pos_right (Nat.zero_lt_of_lt hi)
    have hsame := h (i % p.width) (Nat.mod_lt _ hpos) (i / p.width) (Nat.div_lt_of_lt_mul hi)
    rw [← lit_eq_isLit p hi, hw, ← lit_eq_isLit q (by rwa [← hw, ← hh])] at hsame
    simpa [hp, hq] using hsame
  obtain ⟨width, height, lit, hsize⟩ := p
  obtain ⟨_, _, _, _⟩ := q
  cases hw
  cases hh
  cases hlit
  rfl

/-- A panel shows a picture when its segments are lit where the pixels are darker than white. -/
theorem isLit_ofPicture (p : Picture) (place : Pixel) :
    (ofPicture p).isLit place = true ↔ ∃ color, p.pixel? place = some color ∧ luma color ≤ 254 := by
  obtain ⟨x, y⟩ := place
  by_cases h : x < p.width ∧ y < p.height
  · obtain ⟨color, hcolor⟩ := p.pixel?_of_lt h.1 h.2
    have hpixel : p.pixels[y * p.width + x]? = some color := by
      simpa [Picture.pixel?, h.1] using hcolor
    rw [(ofPicture p).isLit_of_lt h.1 h.2]
    simp [ofPicture, index, hpixel, hcolor, isInk]
  · rw [(ofPicture p).isLit_of_not_lt h]
    simp only [Bool.false_eq_true, false_iff, not_exists, not_and]
    intro color hcolor
    exact absurd (Picture.lt_of_pixel? hcolor) h

/-! ## Pages -/

theorem length_columns (p : Panel) (chip page : Nat) :
    ((List.range chipWidth).map fun column => p.strip chip page column).length = chipWidth := by
  simp

theorem length_chip (p : Panel) (chip : Nat) :
    ((List.range (p.height / pageHeight)).flatMap fun page =>
      (List.range chipWidth).map fun column => p.strip chip page column).length =
      p.height / pageHeight * chipWidth := by
  rw [length_flatMap_range fun page _ => p.length_columns chip page]

theorem length_strips (p : Panel) :
    p.strips.length = p.width / chipWidth * (p.height / pageHeight * chipWidth) := by
  unfold strips
  rw [length_flatMap_range fun chip _ => p.length_chip chip]

/-- Where the columns of a page stand. -/
theorem getElem?_strips (p : Panel) {chip page column : Nat} (hchip : chip < p.width / chipWidth)
    (hpage : page < p.height / pageHeight) (hcolumn : column < chipWidth) :
    p.strips[(chip * (p.height / pageHeight) + page) * chipWidth + column]? =
      some (p.strip chip page column) := by
  have hinner : page * chipWidth + column < p.height / pageHeight * chipWidth := by
    rw [Nat.mul_comm (p.height / pageHeight)]
    exact (Picture.index_lt_iff hcolumn).2 hpage
  have hindex : (chip * (p.height / pageHeight) + page) * chipWidth + column =
      chip * (p.height / pageHeight * chipWidth) + (page * chipWidth + column) := by
    rw [Nat.add_mul, Nat.mul_assoc, Nat.add_assoc]
  unfold strips
  rw [hindex, getElem?_flatMap_range (fun chip _ => p.length_chip chip) hchip hinner,
    getElem?_flatMap_range (fun page _ => p.length_columns chip page) hpage hcolumn,
    List.getElem?_map, List.getElem?_range hcolumn]
  rfl

/-! ## Panels read off their pages -/

/-- Where the column of a segment stands in the pages of a panel of so many rows. -/
def position (height : Nat) (place : Pixel) : Nat :=
  (place.1 / chipWidth * (height / pageHeight) + place.2 / pageHeight) * chipWidth +
    place.1 % chipWidth

/-- The panel of a size that has the given pages. -/
def ofPages (width height : Nat) (bytes : Bytes) : Panel where
  width
  height
  lit := Array.ofFn fun i : Fin (width * height) =>
    let place : Pixel := (i.val % width, i.val / width)
    (bytes[position height place]?.getD 0).toNat.testBit (place.2 % pageHeight)
  size_lit := Array.size_ofFn

theorem isLit_ofPages {width height : Nat} (bytes : Bytes) {x y : Nat} (hx : x < width)
    (hy : y < height) : (ofPages width height bytes).isLit (x, y) =
      (bytes[position height (x, y)]?.getD 0).toNat.testBit (y % pageHeight) := by
  have hindex : y * width + x < width * height := (Picture.index_lt_iff hx).2 hy
  have hrow : (y * width + x) / width = y := by
    rw [Nat.mul_comm, Nat.mul_add_div (Nat.zero_lt_of_lt hx), Nat.div_eq_of_lt hx, Nat.add_zero]
  have hcolumn : (y * width + x) % width = x := by
    rw [Nat.mul_comm, Nat.mul_add_mod, Nat.mod_eq_of_lt hx]
  rw [(ofPages width height bytes).isLit_of_lt hx hy]
  simp only [ofPages, index, Array.getElem?_ofFn, dif_pos hindex, hrow, hcolumn]
  rfl

theorem segment_div_mod (x y : Nat) :
    segment (x / chipWidth) (y / pageHeight) (x % chipWidth) (y % pageHeight) = (x, y) := by
  simp only [segment, Nat.div_add_mod']

theorem position_segment (height chip page : Nat) {column row : Nat} (hcolumn : column < chipWidth)
    (hrow : row < pageHeight) : position height (segment chip page column row) =
      (chip * (height / pageHeight) + page) * chipWidth + column := by
  unfold chipWidth at hcolumn
  unfold pageHeight at hrow
  simp only [position, segment, chipWidth, pageHeight]
  rw [show (chip * 64 + column) / 64 = chip by omega,
    show (chip * 64 + column) % 64 = column by omega, show (page * 8 + row) / 8 = page by omega]

section Aligned

variable {width height : Nat} (hw : width % chipWidth = 0) (hh : height % pageHeight = 0)

include hw in
theorem segment_column_lt {chip column : Nat} (hchip : chip < width / chipWidth)
    (hcolumn : column < chipWidth) : chip * chipWidth + column < width := by
  rw [← Nat.div_mul_cancel (Nat.dvd_of_mod_eq_zero hw), Nat.mul_comm (width / chipWidth)]
  exact (Picture.index_lt_iff hcolumn).2 hchip

include hh in
theorem segment_row_lt {page row : Nat} (hpage : page < height / pageHeight)
    (hrow : row < pageHeight) : page * pageHeight + row < height := by
  rw [← Nat.div_mul_cancel (Nat.dvd_of_mod_eq_zero hh), Nat.mul_comm (height / pageHeight)]
  exact (Picture.index_lt_iff hrow).2 hpage

include hw hh in
/-- Each byte holds eight segments. -/
theorem chips_mul_pages :
    width / chipWidth * (height / pageHeight * chipWidth) = width * height / pageHeight := by
  rw [Nat.mul_comm (height / pageHeight), ← Nat.mul_assoc,
    Nat.div_mul_cancel (Nat.dvd_of_mod_eq_zero hw),
    Nat.mul_div_assoc _ (Nat.dvd_of_mod_eq_zero hh)]

end Aligned

/-- **A panel is read off its pages.** -/
theorem ofPages_strips (p : Panel) (hw : p.width % chipWidth = 0)
    (hh : p.height % pageHeight = 0) : ofPages p.width p.height p.strips = p := by
  refine @ext_isLit (ofPages p.width p.height p.strips) p rfl rfl ?_
  intro x (hx : x < p.width) y (hy : y < p.height)
  have hchip := Nat.div_lt_div_of_lt_of_dvd (Nat.dvd_of_mod_eq_zero hw) hx
  have hpage := Nat.div_lt_div_of_lt_of_dvd (Nat.dvd_of_mod_eq_zero hh) hy
  have hcolumn : x % chipWidth < chipWidth := Nat.mod_lt _ (by decide)
  have hrow : y % pageHeight < pageHeight := Nat.mod_lt _ (by decide)
  rw [isLit_ofPages _ hx hy]
  simp only [position]
  rw [p.getElem?_strips hchip hpage hcolumn, Option.getD_some, p.testBit_strip _ _ _ hrow,
    segment_div_mod]

/-- Each byte of the pages is a column of some page. -/
theorem exists_place {chips pages i : Nat} (h : i < chips * (pages * chipWidth)) :
    ∃ chip < chips, ∃ page < pages, ∃ column < chipWidth,
      i = (chip * pages + page) * chipWidth + column := by
  have hrest : i / chipWidth < chips * pages := by
    rw [← Nat.mul_assoc, Nat.mul_comm _ chipWidth] at h
    exact Nat.div_lt_of_lt_mul h
  have hpos : 0 < pages := Nat.pos_of_mul_pos_left (Nat.zero_lt_of_lt hrest)
  refine ⟨i / chipWidth / pages, ?_, i / chipWidth % pages, Nat.mod_lt _ hpos, i % chipWidth,
    Nat.mod_lt _ (by decide), ?_⟩
  · rw [Nat.mul_comm] at hrest
    exact Nat.div_lt_of_lt_mul hrest
  · rw [Nat.div_add_mod', Nat.div_add_mod']

/-- **Every byte string of the right length is the pages of a panel.** -/
theorem strips_ofPages {width height : Nat} (hw : width % chipWidth = 0)
    (hh : height % pageHeight = 0) {bytes : Bytes}
    (h : bytes.length = width * height / pageHeight) :
    (ofPages width height bytes).strips = bytes := by
  rw [← chips_mul_pages hw hh] at h
  have hlength : (ofPages width height bytes).strips.length = bytes.length :=
    (length_strips _).trans h.symm
  apply List.ext_getElem?
  intro i
  by_cases hi : i < bytes.length
  · have hplace := hi
    rw [h] at hplace
    obtain ⟨chip, hchip, page, hpage, column, hcolumn, rfl⟩ := exists_place hplace
    have hbyte : (ofPages width height bytes).strip chip page column =
        bytes[(chip * (height / pageHeight) + page) * chipWidth + column] := by
      refine ext_testBit fun row hrow => ?_
      have hmod : (page * pageHeight + row) % pageHeight = row := by
        rw [Nat.mul_comm, Nat.mul_add_mod, Nat.mod_eq_of_lt hrow]
      have hlit := isLit_ofPages bytes (segment_column_lt hw hchip hcolumn)
        (segment_row_lt hh hpage hrow)
      rw [hmod, ← segment, position_segment height chip page hcolumn hrow,
        List.getElem?_eq_getElem hi, Option.getD_some] at hlit
      rw [testBit_strip _ _ _ _ hrow, hlit]
    rw [List.getElem?_eq_getElem hi, ← hbyte]
    exact (ofPages width height bytes).getElem?_strips hchip hpage hcolumn
  · rw [List.getElem?_eq_none (by omega), List.getElem?_eq_none (by omega)]

/-! ## Counting -/

/-- How many bits of a byte are set. -/
def bitCount (byte : UInt8) : Nat :=
  (List.range pageHeight).countP fun row => byte.toNat.testBit row

theorem countP_range (f : Nat → Bool) (n : Nat) :
    (List.range n).countP f = ∑ i ∈ Finset.range n, (f i).toNat := by
  induction n with
  | zero => rfl
  | succ n ih =>
    rw [List.range_succ, List.countP_append, ih, Finset.sum_range_succ]
    cases hf : f n <;> simp [hf]

theorem sum_map_range (f : Nat → Nat) (n : Nat) :
    ((List.range n).map f).sum = ∑ i ∈ Finset.range n, f i := by
  induction n with
  | zero => rfl
  | succ n ih => rw [List.sum_range_succ, ih, Finset.sum_range_succ]

theorem sum_map_flatMap_range {α : Type} (f : Nat → List α) (g : α → Nat) (n : Nat) :
    (((List.range n).flatMap f).map g).sum = ∑ i ∈ Finset.range n, ((f i).map g).sum := by
  induction n with
  | zero => rfl
  | succ n ih =>
    rw [List.range_succ, List.flatMap_append, List.map_append, List.sum_append, ih,
      List.flatMap_singleton, Finset.sum_range_succ]

/-- A sum over numbers, block by block. -/
theorem sum_range_mul (f : Nat → Nat) (m n : Nat) :
    ∑ i ∈ Finset.range (m * n), f i =
      ∑ i ∈ Finset.range m, ∑ j ∈ Finset.range n, f (i * n + j) := by
  induction m with
  | zero => simp
  | succ m ih => rw [Nat.succ_mul, Finset.sum_range_add, ih, Finset.sum_range_succ]

theorem litCount_eq_sum (p : Panel) : p.litCount =
    ∑ y ∈ Finset.range p.height, ∑ x ∈ Finset.range p.width, (p.isLit (x, y)).toNat := by
  have hlist : p.lit.toList = (List.range (p.height * p.width)).map fun i =>
      p.lit[i]?.getD false := by
    apply List.ext_getElem (by simp [p.size_lit, Nat.mul_comm])
    intro i hi _
    have hsize : i < p.lit.size := by simpa using hi
    simp [hsize]
  unfold litCount
  rw [← Array.countP_toList, hlist, List.countP_map, countP_range, sum_range_mul]
  refine Finset.sum_congr rfl fun y hy => Finset.sum_congr rfl fun x hx => ?_
  rw [p.isLit_of_lt (Finset.mem_range.1 hx) (Finset.mem_range.1 hy)]
  rfl

/-- **As many bits are set as segments are lit.** -/
theorem sum_bitCount_strips (p : Panel) (hw : p.width % chipWidth = 0)
    (hh : p.height % pageHeight = 0) : (p.strips.map bitCount).sum = p.litCount := by
  have hstrip (chip page column : Nat) : bitCount (p.strip chip page column) =
      ∑ row ∈ Finset.range pageHeight, (p.isLit (segment chip page column row)).toNat := by
    rw [bitCount, countP_range]
    refine Finset.sum_congr rfl fun row hrow => ?_
    rw [p.testBit_strip _ _ _ (Finset.mem_range.1 hrow)]
  have hcolumns (chip page : Nat) :
      (((List.range chipWidth).map fun column => p.strip chip page column).map bitCount).sum =
        ∑ column ∈ Finset.range chipWidth, ∑ row ∈ Finset.range pageHeight,
          (p.isLit (segment chip page column row)).toNat := by
    rw [List.map_map, sum_map_range]
    exact Finset.sum_congr rfl fun column _ => hstrip chip page column
  calc (p.strips.map bitCount).sum
      = ∑ chip ∈ Finset.range (p.width / chipWidth),
          ∑ page ∈ Finset.range (p.height / pageHeight), ∑ column ∈ Finset.range chipWidth,
            ∑ row ∈ Finset.range pageHeight,
              (p.isLit (segment chip page column row)).toNat := by
        simp only [strips, sum_map_flatMap_range, hcolumns]
    _ = ∑ chip ∈ Finset.range (p.width / chipWidth), ∑ column ∈ Finset.range chipWidth,
          ∑ page ∈ Finset.range (p.height / pageHeight), ∑ row ∈ Finset.range pageHeight,
            (p.isLit (segment chip page column row)).toNat :=
        Finset.sum_congr rfl fun chip _ => Finset.sum_comm
    _ = ∑ x ∈ Finset.range p.width, ∑ y ∈ Finset.range p.height, (p.isLit (x, y)).toNat := by
        have hwidth := Nat.div_mul_cancel (Nat.dvd_of_mod_eq_zero hw)
        have hheight := Nat.div_mul_cancel (Nat.dvd_of_mod_eq_zero hh)
        conv_rhs => rw [← hwidth, sum_range_mul]
        refine Finset.sum_congr rfl fun chip _ => Finset.sum_congr rfl fun column _ => ?_
        conv_rhs => rw [← hheight, sum_range_mul]
        rfl
    _ = p.litCount := by rw [litCount_eq_sum, Finset.sum_comm]

/-! ## Pictures of panels -/

/-- Ink is darker than white. -/
@[simp] theorem isInk_ink : isInk .ink = true := by decide +kernel

@[simp] theorem isInk_paper : isInk .paper = false := by decide +kernel

/-- The picture of a panel: ink where a segment is lit. -/
def picture (p : Panel) : Picture where
  width := p.width
  height := p.height
  pixels := p.lit.map fun lit => if lit then .ink else .paper
  size_pixels := by simp [p.size_lit]

theorem ofPicture_picture (p : Panel) : ofPicture p.picture = p := by
  have hlit : (p.lit.map fun lit => if lit then Color.ink else Color.paper).map isInk = p.lit := by
    have hid (lit : Bool) : isInk (if lit then Color.ink else Color.paper) = lit := by
      cases lit <;> simp
    rw [Array.map_map]
    exact (Array.map_congr_left fun lit _ => hid lit).trans (Array.map_id _)
  obtain ⟨width, height, lit, hsize⟩ := p
  simp only [ofPicture, picture, mk.injEq, true_and]
  exact hlit

/-! ## Machine words -/

/-- Words of 32 bits hold a product and its sum with a third number. -/
def InWord (a b c : Nat) : Prop :=
  (UInt32.ofNat a * UInt32.ofNat b).toNat = a * b ∧
    (UInt32.ofNat a * UInt32.ofNat b + UInt32.ofNat c).toNat = a * b + c

theorem inWord_of_lt {a b c : Nat} (h : a * b + c < 2 ^ 32) : InWord a b c := by
  have hproduct : (UInt32.ofNat a * UInt32.ofNat b).toNat = a * b := by
    rw [UInt32.toNat_mul, UInt32.toNat_ofNat', UInt32.toNat_ofNat', ← Nat.mul_mod,
      Nat.mod_eq_of_lt (by omega)]
  refine ⟨hproduct, ?_⟩
  rw [UInt32.toNat_add, hproduct, UInt32.toNat_ofNat', Nat.add_mod_mod, Nat.mod_eq_of_lt h]

/-- The panel answers for the segment whose number the word holds. -/
theorem query_of_lt (p : Panel) {x y : UInt32} (hx : x.toNat < p.width) (hy : y.toNat < p.height) :
    p.query x y = p.lit[(y.toNat * p.width + x.toNat) % 2 ^ 32]?.getD false := by
  simp [query, hx, hy]

theorem query_of_not_lt (p : Panel) {x y : UInt32}
    (h : ¬(x.toNat < p.width ∧ y.toNat < p.height)) : p.query x y = false := by
  rw [not_and_or] at h
  rcases h with h | h <;> simp [query, h]

/-- The panel answers for the segment it is asked for as long as a word holds the number of it. -/
theorem query_eq_isLit (p : Panel) {x y : UInt32}
    (h : y.toNat * p.width + x.toNat < 2 ^ 32) : p.query x y = p.isLit (x.toNat, y.toNat) := by
  by_cases inside : x.toNat < p.width ∧ y.toNat < p.height
  · rw [p.query_of_lt inside.1 inside.2, p.isLit_of_lt inside.1 inside.2, Nat.mod_eq_of_lt h]
    rfl
  · rw [p.query_of_not_lt inside, p.isLit_of_not_lt inside]

/-! ## The encoding -/

theorem splits_iff (p : Panel) :
    p.splits = true ↔ p.width % chipWidth = 0 ∧ p.height % pageHeight = 0 := by
  simp [splits]

theorem pages_eq_ok_iff (p : Panel) {bytes : Bytes} : p.pages = .ok bytes ↔
    (p.width % chipWidth = 0 ∧ p.height % pageHeight = 0) ∧ p.strips = bytes := by
  rw [← splits_iff]
  unfold pages
  split <;> simp [*]

theorem exists_pages_eq_error_iff (p : Panel) :
    (∃ reason, p.pages = .error (.settings reason)) ↔
      ¬(p.width % chipWidth = 0 ∧ p.height % pageHeight = 0) := by
  rw [← splits_iff]
  unfold pages
  split <;> simp [*]

/-- Different panels have different pages. -/
theorem pages_inj {p q : Panel} {bytes : Bytes} (hw : q.width = p.width)
    (hh : q.height = p.height) (hp : p.pages = .ok bytes) (hq : q.pages = .ok bytes) : q = p := by
  obtain ⟨⟨hpw, hph⟩, hp⟩ := p.pages_eq_ok_iff.1 hp
  obtain ⟨⟨hqw, hqh⟩, hq⟩ := q.pages_eq_ok_iff.1 hq
  rw [← q.ofPages_strips hqw hqh, ← p.ofPages_strips hpw hph, hp, hq, hw, hh]

/-- The bit of a pixel in the pages of a picture. -/
theorem bit_strips_ofPicture (p : Picture) (hw : p.width % chipWidth = 0)
    (hh : p.height % pageHeight = 0) {chip page column bit : Nat}
    (hchip : chip < p.width / chipWidth) (hpage : page < p.height / pageHeight)
    (hcolumn : column < chipWidth) (hbit : bit < pageHeight) :
    ∃ byte color,
      (ofPicture p).strips[(chip * (p.height / pageHeight) + page) * chipWidth + column]? =
          some byte ∧
        p.pixel? (chipWidth * chip + column, pageHeight * page + bit) = some color ∧
        (byte.toNat.testBit bit = true ↔ luma color ≤ 254) := by
  have hx := segment_column_lt hw hchip hcolumn
  have hy := segment_row_lt hh hpage hbit
  obtain ⟨color, hcolor⟩ := p.pixel?_of_lt hx hy
  have hlit : (ofPicture p).isLit (segment chip page column bit) = true ↔ luma color ≤ 254 := by
    rw [isLit_ofPicture, segment, hcolor]
    simp
  rw [Nat.mul_comm chipWidth chip, Nat.mul_comm pageHeight page]
  refine ⟨_, color, (ofPicture p).getElem?_strips hchip hpage hcolumn, hcolor, ?_⟩
  rw [testBit_strip _ _ _ _ hbit, hlit]

/-- A picture with so few pixels has all its numbers in words. -/
theorem inWord_segment {width height chip page column bit : Nat}
    (small : width * height < 2 ^ 32) (hchip : chip < width / chipWidth)
    (hpage : page < height / pageHeight) (hcolumn : column < chipWidth) (hbit : bit < pageHeight) :
    InWord chip chipWidth column ∧ InWord page pageHeight bit := by
  unfold chipWidth at *
  unfold pageHeight at *
  have hwidth : width ≤ width * height := Nat.le_mul_of_pos_right _ (by omega)
  have hheight : height ≤ width * height := Nat.le_mul_of_pos_left _ (by omega)
  exact ⟨inWord_of_lt (by omega), inWord_of_lt (by omega)⟩

/-- **Pages are an encoding of which pixels are darker than white.** -/
theorem pages_ofPicture (p : Picture) (small : p.width * p.height < 2 ^ 32) :
    ((∃ reason, (ofPicture p).pages = .error (.settings reason)) ↔
        ¬(p.width % 64 = 0 ∧ p.height % 8 = 0)) ∧
      (p.width % 64 = 0 ∧ p.height % 8 = 0 →
        (∃ bytes, (ofPicture p).pages = .ok bytes ∧ bytes.length = p.width * p.height / 8 ∧
          (∀ chip < p.width / 64, ∀ page < p.height / 8, ∀ column < 64, ∀ bit < 8,
            ∃ byte color, bytes[(chip * (p.height / 8) + page) * 64 + column]? = some byte ∧
              p.pixel? (64 * chip + column, 8 * page + bit) = some color ∧
              (byte.toNat.testBit bit = true ↔ luma color ≤ 254)) ∧
          ofPages p.width p.height bytes = ofPicture p ∧
          (∀ q : Picture, q.width = p.width → q.height = p.height →
            (ofPicture q).pages = .ok bytes → ofPicture q = ofPicture p) ∧
          (bytes.map bitCount).sum = (ofPicture p).litCount) ∧
        (∀ bytes : Bytes, bytes.length = p.width * p.height / 8 → ∃ q : Picture,
          q.width = p.width ∧ q.height = p.height ∧ (ofPicture q).pages = .ok bytes)) ∧
      InWord p.width p.height 0 ∧
      (∀ x < p.width, ∀ y < p.height,
        InWord y p.width x ∧ (ofPicture p).index (x, y) < (ofPicture p).lit.size) ∧
      (∀ chip < p.width / 64, ∀ page < p.height / 8, ∀ column < 64, ∀ bit < 8,
        InWord chip 64 column ∧ InWord page 8 bit) := by
  refine ⟨(ofPicture p).exists_pages_eq_error_iff, fun aligned => ⟨?encoded, ?onto⟩,
    inWord_of_lt small, ?place, ?segment⟩
  case encoded =>
    obtain ⟨hw, hh⟩ := aligned
    have hpages : (ofPicture p).pages = .ok (ofPicture p).strips :=
      (ofPicture p).pages_eq_ok_iff.2 ⟨⟨hw, hh⟩, rfl⟩
    refine ⟨(ofPicture p).strips, hpages, ?_, ?_, (ofPicture p).ofPages_strips hw hh, ?_,
      (ofPicture p).sum_bitCount_strips hw hh⟩
    · exact (ofPicture p).length_strips.trans (chips_mul_pages hw hh)
    · intro chip hchip page hpage column hcolumn bit hbit
      exact bit_strips_ofPicture p hw hh hchip hpage hcolumn hbit
    · intro q hqw hqh hq
      exact pages_inj hqw hqh hpages hq
  case onto =>
    intro bytes hlength
    refine ⟨(ofPages p.width p.height bytes).picture, rfl, rfl, ?_⟩
    rw [ofPicture_picture, pages_eq_ok_iff]
    exact ⟨aligned, strips_ofPages aligned.1 aligned.2 hlength⟩
  case place =>
    intro x hx y hy
    have hindex : y * p.width + x < p.width * p.height := (Picture.index_lt_iff hx).2 hy
    refine ⟨inWord_of_lt (Nat.lt_trans hindex small), ?_⟩
    rw [(ofPicture p).size_lit]
    exact hindex
  case segment =>
    intro chip hchip page hpage column hcolumn bit hbit
    exact inWord_segment small hchip hpage hcolumn hbit

/-- One dark pixel sets its bit: it is in the second chip's second page, in its second row. -/
theorem pages_ofPicture_dark_pixel :
    let picture := (Picture.blank 128 16).set (70, 9) .ink
    picture.width * picture.height < 2 ^ 32 ∧
      ∃ bytes byte, (ofPicture picture).pages = .ok bytes ∧ bytes.length = 256 ∧
        bytes[198]? = some byte ∧ byte.toNat.testBit 1 = true := by
  intro picture
  have hwidth : picture.width = 128 := rfl
  have hheight : picture.height = 16 := rfl
  have small : picture.width * picture.height < 2 ^ 32 := by decide
  obtain ⟨⟨bytes, hpages, hlength, hbits, -⟩, -⟩ :=
    (pages_ofPicture picture small).2.1 (by decide)
  obtain ⟨byte, color, hbyte, hcolor, hbit⟩ :=
    hbits 1 (by decide) 1 (by decide) 6 (by decide) 1 (by decide)
  have hink : picture.pixel? (70, 9) = some .ink := by
    obtain ⟨color, hcolor⟩ := (Picture.blank 128 16).pixel?_of_lt (x := 70)
      (y := 9) (by decide) (by decide)
    rw [Picture.pixel?_set, if_pos rfl, hcolor, Option.map_some]
  obtain rfl : .ink = color := Option.some.inj (hink.symm.trans hcolor)
  rw [hwidth, hheight] at hlength
  rw [hheight] at hbyte
  exact ⟨small, bytes, byte, hpages, hlength, hbyte, hbit.2 (by decide +kernel)⟩

end Panel

end StatusPanel
