import StatusPanel.Proofs.Footprint
import StatusPanel.Proofs.Painting

/-!
# Painting over

What a picture shows after many marks. Each mark has a shape, which is all of it but its colour, and
the shape alone decides which pixels of a picture the mark covers. Main statements: a pixel shows
the last mark that covers it (`pixel?_foldl_draw`), so marks that are made again change nothing
(`foldl_draw_twice`) and marks that share no pixel can be made in either order
(`draw_comm_of_disjoint`).
-/

namespace StatusPanel

/-! ## Shapes -/

/-- What a mark is apart from its colour. -/
inductive Shape where
  | rectangle (rect : Rect)
  | text (style : TextStyle) (origin : Point) (words : String)

/-- The pixels that a shape covers on a picture of a size. -/
def Shape.footprint (s : Shape) (width height : Nat) : List Pixel :=
  match s with
  | .rectangle rect => rect.footprint width height
  | .text style origin words => style.footprint origin words width height

namespace Mark

def shape : Mark → Shape
  | .fill rect _ => .rectangle rect
  | .text style origin _ words => .text style origin words

def color : Mark → Color
  | .fill _ color => color
  | .text _ _ color _ => color

theorem draw_eq_paint (m : Mark) (p : Picture) :
    m.draw p = p.paint (m.shape.footprint p.width p.height) m.color := by
  cases m with
  | fill rect color => rfl
  | text style origin color words => rfl

end Mark

/-- A shape covers no pixel that the picture does not have. -/
theorem Shape.lt_of_mem_footprint {s : Shape} {x y width height : Nat}
    (h : (x, y) ∈ s.footprint width height) : x < width ∧ y < height := by
  cases s with
  | rectangle rect =>
    simp only [footprint, Rect.footprint] at h
    split at h
    · exact (mem_clip.1 h).2
    · cases h
  | text style origin words =>
    simp only [footprint, TextStyle.footprint] at h
    exact (mem_clip.1 h).2

namespace Picture

/-! ## Pictures by their pixels -/

theorem pixel?_of_lt (p : Picture) {x y : Nat} (hx : x < p.width) (hy : y < p.height) :
    ∃ color, p.pixel? (x, y) = some color := by
  have hindex : y * p.width + x < p.pixels.size := by
    rw [p.size_pixels]
    exact (index_lt_iff hx).2 hy
  refine ⟨p.pixels[y * p.width + x], ?_⟩
  simp only [pixel?, if_pos hx]
  exact Array.getElem?_eq_getElem hindex

theorem lt_of_pixel? {p : Picture} {x y : Nat} {color : Color}
    (h : p.pixel? (x, y) = some color) : x < p.width ∧ y < p.height := by
  simp only [pixel?] at h
  split at h
  · next hx =>
    have hindex := (Array.getElem?_eq_some_iff.1 h).1
    rw [p.size_pixels] at hindex
    exact ⟨hx, (index_lt_iff hx).1 hindex⟩
  · cases h

/-- Pictures of one size that show the same pixels are the same. -/
theorem ext_pixel? {p q : Picture} (hw : p.width = q.width) (hh : p.height = q.height)
    (h : ∀ place, p.pixel? place = q.pixel? place) : p = q := by
  obtain ⟨width, height, pixels, hsize⟩ := p
  obtain ⟨_, _, pixels', hsize'⟩ := q
  cases hw
  cases hh
  have hpixels : pixels = pixels' := by
    apply Array.ext_getElem?
    intro i
    by_cases hi : i < width * height
    · -- the pixel of this number
      have hpos : 0 < width := Nat.pos_of_mul_pos_right (Nat.zero_lt_of_lt hi)
      have hcolumn : i % width < width := Nat.mod_lt _ hpos
      have hplace := h (i % width, i / width)
      simpa only [pixel?, if_pos hcolumn, Nat.div_add_mod'] using hplace
    · rw [Array.getElem?_eq_none (by omega), Array.getElem?_eq_none (by omega)]
  subst hpixels
  rfl

/-! ## The last mark -/

theorem pixel?_draw (p : Picture) (m : Mark) (place : Pixel) :
    (m.draw p).pixel? place =
      if place ∈ m.shape.footprint p.width p.height then some m.color else p.pixel? place := by
  rw [m.draw_eq_paint, pixel?_paint]
  split
  · next hmem =>
    obtain ⟨hx, hy⟩ := Shape.lt_of_mem_footprint hmem
    obtain ⟨color, hcolor⟩ := p.pixel?_of_lt hx hy
    rw [hcolor]
    rfl
  · rfl

/-- The last of some marks that covers a pixel of a picture of a size. -/
def lastOver? (marks : List Mark) (width height : Nat) (place : Pixel) : Option Mark :=
  marks.reverse.find? fun m => place ∈ m.shape.footprint width height

theorem lastOver?_cons (m : Mark) (rest : List Mark) (width height : Nat) (place : Pixel) :
    lastOver? (m :: rest) width height place =
      (lastOver? rest width height place).or
        (if place ∈ m.shape.footprint width height then some m else none) := by
  unfold lastOver?
  rw [List.reverse_cons, List.find?_append]
  by_cases hm : place ∈ m.shape.footprint width height
  · simp [hm]
  · simp [hm]

/-- **A pixel shows the last mark that covers it**, and what it showed before if there is none. -/
theorem pixel?_foldl_draw (marks : List Mark) (p : Picture) (place : Pixel) :
    (marks.foldl Mark.draw p).pixel? place =
      ((lastOver? marks p.width p.height place).map Mark.color).or (p.pixel? place) := by
  induction marks generalizing p with
  | nil => rfl
  | cons m rest ih =>
    rw [List.foldl_cons, ih, pixel?_draw, width_draw, height_draw, lastOver?_cons]
    cases lastOver? rest p.width p.height place with
    | some last => rfl
    | none =>
      by_cases hm : place ∈ m.shape.footprint p.width p.height
      · simp [hm]
      · simp [hm]

/-- Marks that have just been made change nothing when they are made again. -/
theorem foldl_draw_twice (marks : List Mark) (p : Picture) :
    marks.foldl Mark.draw (marks.foldl Mark.draw p) = marks.foldl Mark.draw p := by
  obtain ⟨hw, hh⟩ := size_foldl_draw marks p
  obtain ⟨hw', hh'⟩ := size_foldl_draw marks (marks.foldl Mark.draw p)
  refine ext_pixel? hw' hh' ?_
  intro place
  rw [pixel?_foldl_draw, hw, hh, pixel?_foldl_draw]
  cases lastOver? marks p.width p.height place with
  | some m => rfl
  | none => rfl

/-- Marks that share no pixel can be made in either order. -/
theorem draw_comm_of_disjoint {m n : Mark} {p : Picture}
    (h : ∀ place ∈ m.shape.footprint p.width p.height,
      place ∉ n.shape.footprint p.width p.height) :
    n.draw (m.draw p) = m.draw (n.draw p) := by
  refine ext_pixel? (by simp) (by simp) ?_
  intro place
  simp only [pixel?_draw, width_draw, height_draw]
  by_cases hm : place ∈ m.shape.footprint p.width p.height
  · rw [if_pos hm, if_pos hm, if_neg (h place hm)]
  · rw [if_neg hm, if_neg hm]

end Picture

/-! ## Documents and sequences of marks -/

/-- A document that is painted once more is painted as before, and the picture stays. -/
theorem Document.paint_again (d : Document) (style : TextStyle) (picture : Picture) :
    match d.paint style picture with
    | .ok () once => d.paint style once = .ok () once
    | .error fault once => once = picture ∧ d.paint style once = .error fault once := by
  cases h : d.widgets.findSome? d.fault? with
  | some fault =>
    rw [d.paint_of_fault style picture h]
    exact ⟨rfl, d.paint_of_fault style picture h⟩
  | none =>
    rw [d.paint_of_sound style picture h]
    dsimp only
    rw [d.paint_of_sound style _ h, Picture.foldl_draw_twice]

/-- **The last mark wins.** After marks on a picture of any contents, its size is as it was, and
each pixel has the colour of the last mark whose shape covers it on a picture of this size, or its
old colour if there is none. A document painted twice is as if painted once, and two marks that
follow one another and share no pixel can be swapped. -/
theorem Picture.last_mark_wins (p : Picture) (marks : List Mark) :
    let last := marks.foldl Mark.draw p
    (last.width = p.width ∧ last.height = p.height) ∧
      (∀ place before m after, marks = before ++ m :: after →
        place ∈ m.shape.footprint p.width p.height →
        (∀ n ∈ after, place ∉ n.shape.footprint p.width p.height) →
        last.pixel? place = some m.color) ∧
      (∀ place, (∀ m ∈ marks, place ∉ m.shape.footprint p.width p.height) →
        last.pixel? place = p.pixel? place) ∧
      (∀ d : Document, ∀ style,
        match d.paint style p with
        | .ok () once => d.paint style once = .ok () once
        | .error fault once => once = p ∧ d.paint style once = .error fault once) ∧
      ∀ before m n after, marks = before ++ m :: n :: after →
        (∀ place ∈ m.shape.footprint p.width p.height,
          place ∉ n.shape.footprint p.width p.height) →
        last = (before ++ n :: m :: after).foldl Mark.draw p := by
  dsimp only
  refine ⟨size_foldl_draw marks p, ?_, ?_, ?_, ?_⟩
  · rintro place before m after rfl hm hafter
    have hlast : lastOver? (before ++ m :: after) p.width p.height place = some m := by
      have hnone : after.reverse.find?
          (fun n => place ∈ n.shape.footprint p.width p.height) = none := by
        simpa using hafter
      simp [lastOver?, hnone, hm]
    rw [pixel?_foldl_draw, hlast]
    rfl
  · intro place hnone
    have hlast : lastOver? marks p.width p.height place = none := by
      simpa [lastOver?] using hnone
    rw [pixel?_foldl_draw, hlast]
    rfl
  · intro d style
    exact d.paint_again style p
  · rintro before m n after rfl hdisjoint
    obtain ⟨hw, hh⟩ := size_foldl_draw before p
    rw [← hw, ← hh] at hdisjoint
    simp only [List.foldl_append, List.foldl_cons]
    rw [draw_comm_of_disjoint hdisjoint]

/-- Of three rectangles on a red picture the second reaches beyond its edges and hides a corner of
the first. It does not touch the third, which may be made before it. -/
theorem Picture.last_mark_wins_three_rectangles :
    let red := Picture.filled 3 3 ⟨255, 0, 0, 255⟩
    let first := Mark.fill ⟨0, 0, 2, 2⟩ .ink
    let second := Mark.fill ⟨1, 1, 9, 9⟩ .paper
    let third := Mark.fill ⟨0, 0, 1, 1⟩ .paper
    let last := [first, second, third].foldl Mark.draw red
    last.pixel? (1, 1) = some .paper ∧ last.pixel? (2, 0) = some ⟨255, 0, 0, 255⟩ ∧
      last = [first, third, second].foldl Mark.draw red := by
  intro red first second third last
  obtain ⟨_, hcovered, hbare, _, hswap⟩ := Picture.last_mark_wins red [first, second, third]
  refine ⟨?_, ?_, ?_⟩
  · exact hcovered (1, 1) [first] second [third] rfl (by decide +kernel) (by decide +kernel)
  · exact (hbare (2, 0) (by decide +kernel)).trans rfl
  · exact hswap [first] second third [] rfl (by decide +kernel)

end StatusPanel
