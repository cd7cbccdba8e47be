import StatusPanel.Proofs.Overpainting
import StatusPanel.Proofs.PixelBoxes

/-!
# Measured text

A text is measured with its pen at zero, and drawn with its pen somewhere else. Both go through the
same outlines, one after the other; if the places of these are the same apart from whole pixels,
then so are their boxes, and the drawn text stays inside the region that was measured
(`TextStyle.drawText_inside_measured`). That region is the least one around the boxes, and it only
grows when the text goes on.
-/

namespace StatusPanel

/-- An outline at its place. -/
structure PlacedOutline where
  outline : Font.Outline
  place : Point

/-- The box of the pixels that an outline at its place may ink. -/
def PlacedOutline.box (o : PlacedOutline) (scale : Single) : PixelBox :=
  o.outline.bounds.pixelBox scale o.place

/-- The box of an outline at a whole distance from where it was measured, on the line through zero,
is at that distance from the box that was measured. -/
theorem PlacedOutline.box_movedBy {o₀ o : PlacedOutline} {scale : Single} {dx dy : ℤ}
    (houtline : o₀.outline = o.outline) (hx : o₀.place.x.MovedBy dx o.place.x)
    (hy : o₀.place.y = 0) (hy' : o.place.y.value? = some (dy : ℚ))
    (hcrossing : o₀.place.x.less 0 ≠ o.place.x.less 0 →
      (o₀.box scale).left.MovedBy dx (o.box scale).left ∧
        (o₀.box scale).right.MovedBy dx (o.box scale).right)
    (h₀ : (o₀.box scale).Moderate) (h : (o.box scale).Moderate) :
    (o₀.box scale).MovedBy dx dy (o.box scale) := by
  have hrow : o₀.place.y.value? = some ((0 : ℤ) : ℚ) := by
    rw [hy]
    exact Floating.value?_literal 0 (by decide)
  have hrows : o₀.place.y.MovedBy dy o.place.y := ⟨_, hrow, by simpa using hy'⟩
  unfold box at *
  rw [houtline] at hcrossing h₀ ⊢
  exact o.outline.bounds.pixelBox_movedBy hx hrows (Floating.steady_of_int hrow dy) hcrossing h₀ h

namespace TextStyle

variable {s : TextStyle} {text : String}

/-! ## Outlines of a text -/

/-- The outlines of the glyphs that have ink, at their places. -/
def outlines (s : TextStyle) (origin : Point) (text : String) : List PlacedOutline :=
  (s.layout origin text).filterMap fun g =>
    (s.font.glyphs.outline? g.glyph).map fun outline => ⟨outline, g.place⟩

theorem inkBoxes_eq_map (s : TextStyle) (origin : Point) (text : String) :
    s.inkBoxes origin text = (s.outlines origin text).map (·.box s.scale) := by
  rw [inkBoxes, outlines, List.map_filterMap]
  congr 1
  funext g
  rw [Option.map_map]
  rfl

theorem mem_inked_iff {origin : Point} {place : ℤ × ℤ} :
    place ∈ s.inked origin text ↔
      ∃ o ∈ s.outlines origin text, place ∈ o.outline.inked s.scale o.place := by
  simp only [inked, outlines, List.mem_flatMap, List.mem_filterMap, Option.map_eq_some_iff]
  constructor
  · rintro ⟨g, hg, hplace⟩
    cases ho : s.font.glyphs.outline? g.glyph with
    | none =>
      rw [ho] at hplace
      cases hplace
    | some outline =>
      rw [ho] at hplace
      exact ⟨_, ⟨g, hg, outline, ho, rfl⟩, hplace⟩
  · rintro ⟨_, ⟨g, hg, outline, ho, rfl⟩, hplace⟩
    refine ⟨g, hg, ?_⟩
    rw [ho]
    exact hplace

/-- Wherever the pen begins, it passes the same glyphs. -/
theorem forall₂_pens (s : TextStyle) (before : Option Nat) (pen pen' : Single)
    (glyphs : List Nat) :
    List.Forall₂ (fun a b => a.1 = b.1) (s.pens before pen glyphs).1
      (s.pens before pen' glyphs).1 := by
  induction glyphs generalizing before pen pen' with
  | nil => exact .nil
  | cons glyph rest ih => exact .cons rfl (ih (some glyph) _ _)

/-- Wherever the text begins, it has the same outlines, all on its baseline. -/
theorem forall₂_outlines (s : TextStyle) (p q : Point) (text : String) :
    List.Forall₂ (fun a b => a.outline = b.outline ∧ a.place.y = p.y ∧ b.place.y = q.y)
      (s.outlines p text) (s.outlines q text) := by
  unfold outlines layout
  generalize hp : (s.pens none p.x (s.glyphs text)).1 = pens
  generalize hq : (s.pens none q.x (s.glyphs text)).1 = pens'
  have hpens : List.Forall₂ (fun a b => a.1 = b.1) pens pens' := by
    rw [← hp, ← hq]
    exact s.forall₂_pens none p.x q.x (s.glyphs text)
  clear hp hq
  induction hpens with
  | nil => exact .nil
  | @cons a b rest rest' hab _ ih =>
    obtain ⟨glyph, x⟩ := a
    obtain ⟨_, x'⟩ := b
    cases hab
    cases ho : s.font.glyphs.outline? glyph with
    | none => simpa [ho] using ih
    | some outline => simpa [ho] using ih

/-- The pen passes the first glyphs in the same way whatever comes after them. -/
theorem pens_prefix (s : TextStyle) (before : Option Nat) (pen : Single) (glyphs more : List Nat) :
    (s.pens before pen glyphs).1 <+: (s.pens before pen (glyphs ++ more)).1 := by
  induction glyphs generalizing before pen with
  | nil => exact List.nil_prefix
  | cons glyph rest ih => exact (List.prefix_cons_inj _).2 (ih (some glyph) _)

/-- Text that comes after another one moves none of its glyphs. -/
theorem layout_prefix (s : TextStyle) (origin : Point) (text more : String) :
    s.layout origin text <+: s.layout origin (text ++ more) := by
  have hglyphs : s.glyphs (text ++ more) = s.glyphs text ++ s.glyphs more := by
    simp [glyphs]
  rw [layout, layout, hglyphs]
  exact (s.pens_prefix none origin.x (s.glyphs text) (s.glyphs more)).map _

theorem inkBoxes_prefix (s : TextStyle) (origin : Point) (text more : String) :
    s.inkBoxes origin text <+: s.inkBoxes origin (text ++ more) :=
  (s.layout_prefix origin text more).filterMap _

/-! ## Boxes of a text -/

theorem is_region_of_mem_inkBoxes {origin : Point} {box : PixelBox}
    (h : box ∈ s.inkBoxes origin text) (hm : box.Moderate) : box.Is box.region := by
  rw [inkBoxes_eq_map] at h
  obtain ⟨o, _, rfl⟩ := List.mem_map.1 h
  exact o.outline.bounds.is_region hm

end TextStyle

/-- The box of the extents is a region. -/
structure Extents.Is (e : Extents) (r : Region) : Prop where
  xBearing : e.xBearing.value? = some (r.left : ℚ)
  yBearing : e.yBearing.value? = some (r.top : ℚ)
  width : e.width.value? = some ((r.right - r.left : ℤ) : ℚ)
  height : e.height.value? = some ((r.bottom - r.top : ℤ) : ℚ)

namespace TextStyle

variable {s : TextStyle} {text : String}

/-- The least region around the boxes of a text whose pen is at zero; nothing if there are none. -/
def inkRegion (s : TextStyle) (text : String) : Region :=
  match s.inkBoxes {} text with
  | [] => {}
  | first :: rest => (rest.map PixelBox.region).foldl Region.join first.region

theorem inkRegion_within_iff (h : s.inkBoxes {} text ≠ []) {bound : Region} :
    (s.inkRegion text).Within bound ↔ ∀ box ∈ s.inkBoxes {} text, box.region.Within bound := by
  unfold inkRegion
  cases hboxes : s.inkBoxes {} text with
  | nil => exact absurd hboxes h
  | cons first rest =>
    rw [Region.foldl_join_within_iff, ← List.map_cons]
    exact List.forall_mem_map

/-- A box lies within the region of the text. -/
theorem region_within_inkRegion {box : PixelBox} (h : box ∈ s.inkBoxes {} text) :
    box.region.Within (s.inkRegion text) :=
  (inkRegion_within_iff (List.ne_nil_of_mem h)).1 (.refl _) box h

/-- The region only grows when the text goes on. -/
theorem inkRegion_within_append (h : s.inkBoxes {} text ≠ []) (more : String) :
    (s.inkRegion text).Within (s.inkRegion (text ++ more)) :=
  (inkRegion_within_iff h).2 fun _ hmem =>
    region_within_inkRegion ((s.inkBoxes_prefix {} text more).subset hmem)

/-- A text without ink has no pixel. -/
theorem not_has_inkRegion (h : s.inkBoxes {} text = []) (x y : ℤ) :
    ¬(s.inkRegion text).Has x y := by
  rintro ⟨⟨hleft, hright⟩, -⟩
  simp only [inkRegion, h] at hleft hright
  omega

/-- **What is measured is the least region around the boxes.** -/
theorem measure_is (h : ∀ box ∈ s.inkBoxes {} text, box.Moderate) :
    (s.measure text).Is (s.inkRegion text) := by
  unfold measure inkRegion
  cases hboxes : s.inkBoxes {} text with
  | nil =>
    have hzero := Floating.value?_literal 0 (by decide)
    exact ⟨hzero, hzero, hzero, hzero⟩
  | cons first rest =>
    rw [hboxes] at h
    dsimp only
    have his : ∀ box ∈ first :: rest, box.Is box.region := fun box hmem =>
      is_region_of_mem_inkBoxes (hboxes ▸ hmem) (h box hmem)
    obtain ⟨hfirst, hrest⟩ := List.forall_mem_cons.1 his
    have hbox := hfirst.foldl_join hrest
    obtain ⟨hleft, htop, hright, hbottom⟩ :
        ((rest.map PixelBox.region).foldl Region.join first.region).Moderate := by
      refine Region.Moderate.foldl_join ?_
      rw [← List.map_cons, List.forall_mem_map]
      exact fun box hmem => (his box hmem).moderate (h box hmem)
    rw [abs_lt] at hleft htop hright hbottom
    exact ⟨hbox.left, hbox.top, Floating.value?_sub_int hbox.right hbox.left (by omega),
      Floating.value?_sub_int hbox.bottom hbox.top (by omega)⟩

/-! ## Drawing -/

/-- What a text inks lies in the box of one of its outlines. -/
theorem exists_outline_of_pixel?_ne {picture : Picture} {origin : Point} {color : Color} {x y : Nat}
    (h : (Surface.drawText picture s origin color text).pixel? (x, y) ≠ picture.pixel? (x, y)) :
    ∃ o ∈ s.outlines origin text, ((x : ℤ), (y : ℤ)) ∈ o.outline.inked s.scale o.place := by
  have hdraw := picture.pixel?_draw (.text s origin color text) (x, y)
  by_cases hmem : (x, y) ∈ (Shape.text s origin text).footprint picture.width picture.height
  · exact mem_inked_iff.1 (mem_clip.1 hmem).1
  · exact absurd (hdraw.trans (if_neg hmem)) h

/-- An outline that is drawn was measured on the line through zero. -/
theorem exists_measured {origin : Point} {o : PlacedOutline} (h : o ∈ s.outlines origin text) :
    ∃ o₀, (o₀, o) ∈ (s.outlines {} text).zip (s.outlines origin text) ∧
      o₀.outline = o.outline ∧ o₀.place.y = 0 ∧ o.place.y = origin.y := by
  obtain ⟨hlength, hpairs⟩ := List.forall₂_iff_zip.1 (s.forall₂_outlines {} origin text)
  rw [← List.map_snd_zip hlength.ge] at h
  obtain ⟨⟨o₀, _⟩, hmem, rfl⟩ := List.mem_map.1 h
  exact ⟨o₀, hmem, hpairs hmem⟩

/-- **A drawn text stays inside the region that was measured.** Let the places of its outlines be
exactly `dx` further along than when it was measured, on the baseline `dy`, and let the edges of
their boxes be moderate; where an outline comes to the other side of zero, let the left and the
right edge of its box be moved like its place. Then the extents of the text are a region, and
drawing the text changes no pixel outside this region moved by `dx` and `dy`. It is the least region
around the boxes of all outlines, and there is nothing of it if there are none. Text that is added
moves no glyph of the text, and takes no pixel away from the region. -/
theorem drawText_inside_measured (s : TextStyle) (text : String) (origin : Point) (dx dy : ℤ)
    (baseline : origin.y.value? = some (dy : ℚ))
    (exact : ∀ o ∈ (s.outlines {} text).zip (s.outlines origin text),
      o.1.place.x.MovedBy dx o.2.place.x)
    (moderate : ∀ box ∈ s.inkBoxes {} text ++ s.inkBoxes origin text, box.Moderate)
    (crossing : ∀ o ∈ (s.outlines {} text).zip (s.outlines origin text),
      o.1.place.x.less 0 ≠ o.2.place.x.less 0 →
        (o.1.box s.scale).left.MovedBy dx (o.2.box s.scale).left ∧
          (o.1.box s.scale).right.MovedBy dx (o.2.box s.scale).right) :
    ∃ region : Region, (s.measure text).Is region ∧
      (∀ (picture : Picture) (color : Color) (x y : Nat),
        (Surface.drawText picture s origin color text).pixel? (x, y) ≠ picture.pixel? (x, y) →
        (region.shift dx dy).Has x y) ∧
      (∀ box ∈ s.inkBoxes {} text, box.Is box.region ∧ box.region.Within region) ∧
      (s.inkBoxes {} text ≠ [] → ∀ bound : Region,
        (∀ box ∈ s.inkBoxes {} text, box.region.Within bound) → region.Within bound) ∧
      (s.inkBoxes {} text = [] → s.measure text = { advance := (s.measure text).advance }) ∧
      ∀ more, (∀ place, s.layout place text <+: s.layout place (text ++ more)) ∧
        ((∀ box ∈ s.inkBoxes {} (text ++ more), box.Moderate) →
          ∃ longer, (s.measure (text ++ more)).Is longer ∧
            (s.inkBoxes {} text ≠ [] → region.Within longer) ∧
            ∀ x y, region.Has x y → longer.Has x y) := by
  have hmoderate : ∀ box ∈ s.inkBoxes {} text, box.Moderate := fun box hmem =>
    moderate box (List.mem_append_left _ hmem)
  refine ⟨s.inkRegion text, measure_is hmoderate, ?_, ?_, ?_, ?_, ?_⟩
  · intro picture color x y hchanged
    obtain ⟨o, hmem, hinked⟩ := exists_outline_of_pixel?_ne hchanged
    obtain ⟨o₀, hpair, houtline, hy, hy'⟩ := exists_measured hmem
    obtain ⟨hmem₀, -⟩ := List.of_mem_zip hpair
    have hbox₀ : o₀.box s.scale ∈ s.inkBoxes {} text := by
      rw [inkBoxes_eq_map]
      exact List.mem_map_of_mem hmem₀
    have hbox : o.box s.scale ∈ s.inkBoxes origin text := by
      rw [inkBoxes_eq_map]
      exact List.mem_map_of_mem hmem
    have hmoved := PlacedOutline.box_movedBy houtline (exact _ hpair) hy (hy' ▸ baseline)
      (crossing _ hpair) (hmoderate _ hbox₀) (moderate _ (List.mem_append_right _ hbox))
    have his := (is_region_of_mem_inkBoxes hbox₀ (hmoderate _ hbox₀)).shift hmoved
    have hhas := Font.Outline.has_of_mem_inked his
      (his.moderate (moderate _ (List.mem_append_right _ hbox))) hinked
    exact ((region_within_inkRegion hbox₀).shift dx dy).has hhas
  · exact fun box hmem =>
      ⟨is_region_of_mem_inkBoxes hmem (hmoderate box hmem), region_within_inkRegion hmem⟩
  · exact fun hne bound hbound => (inkRegion_within_iff hne).2 hbound
  · intro hnil
    unfold measure
    rw [hnil]
  · intro more
    refine ⟨fun place => s.layout_prefix place text more, fun hlonger => ?_⟩
    refine ⟨_, measure_is hlonger, fun hne => inkRegion_within_append hne more, fun x y hhas => ?_⟩
    have hne : s.inkBoxes {} text ≠ [] := fun hnil => not_has_inkRegion hnil x y hhas
    exact (inkRegion_within_append hne more).has hhas

/-- Two letters and a blank between them, drawn from the left of the picture into it: the first
letter is a column further left than the picture, and crosses the zero of its line. -/
theorem drawText_inside_measured_two_letters :
    let letter : Array UInt8 :=
      #[0, 1, 0, 0, 0, 0, 0, 0, 0, 0, 0, 3, 0, 0, 51, 51, 53, 35, 1, 2, 2, 4]
    let font : Font := {
      unitsPerEm := 8, ascender := 8, descender := 0, glyphCount := 2, advances := #[2, 4]
      characters := [.run 73 [1]], kerning := [], glyphs := ⟨#[0, 0, 22], letter⟩ }
    let s : TextStyle := ⟨font, 8⟩
    (s.measure "I I").xBearing.value? = some 1 ∧ (s.measure "I I").width.value? = some 8 ∧
      ((0 : ℤ), (28 : ℤ)) ∈ s.inked ⟨-2, 30⟩ "I I" ∧
      ∀ (picture : Picture) (color : Color) (x y : Nat),
        (Surface.drawText picture s ⟨-2, 30⟩ color "I I").pixel? (x, y) ≠ picture.pixel? (x, y) →
        ((-1 : ℤ) ≤ x ∧ (x : ℤ) < 7) ∧ (26 : ℤ) ≤ y ∧ (y : ℤ) < 30 := by
  intro letter font s
  refine ⟨by decide +kernel, by decide +kernel, by decide +kernel, ?_⟩
  intro picture color x y hchanged
  obtain ⟨region, ⟨hleft, htop, hwidth, hheight⟩, hinside, -⟩ :=
    drawText_inside_measured s "I I" ⟨-2, 30⟩ (-2) 30 (by decide +kernel) (by decide +kernel)
      (by decide +kernel) (by decide +kernel)
  have whole {a b : ℤ} {e : Single} (ha : e.value? = some (a : ℚ)) (hb : e.value? = some (b : ℚ)) :
      a = b := Int.cast_injective (Option.some.inj (ha.symm.trans hb))
  have hleft := whole (b := 1) hleft (by decide +kernel)
  have htop := whole (b := -4) htop (by decide +kernel)
  have hwidth := whole (b := 8) hwidth (by decide +kernel)
  have hheight := whole (b := 4) hheight (by decide +kernel)
  obtain ⟨⟨hx, hx'⟩, hy, hy'⟩ := hinside picture color x y hchanged
  simp only [Region.shift] at hx hx' hy hy'
  omega

end TextStyle

end StatusPanel
