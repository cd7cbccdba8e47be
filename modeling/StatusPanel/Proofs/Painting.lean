import StatusPanel.Picture.Footprint
import StatusPanel.Widget.Painting

/-!
# Painting all of a document or nothing

Which marks a document makes, and which fault stops it, are told here from its widgets and values
alone, without painting. A document with a bad reference leaves the surface as it was, and any other
makes the marks of its widgets in order (`paint_all_or_nothing`). What it makes on a picture is what
its recorded drawing makes there (`paint_picture_eq_replay`).
-/

namespace StatusPanel

variable {σ : Type} [Surface σ]

/-! ## What a document says -/

/-- What is wrong with the reference of a widget. -/
def Document.fault? (d : Document) (w : Widget) : Option Fault :=
  match d.value? w.key with
  | none => some (.unresolved w.key w.kind)
  | some v => if v.kind = w.kind then none else some (.mismatched w.key w.kind v.kind)

/-- The marks of a label: the plate if it is inverted, then the text. -/
def Label.marks (l : Label) (style : TextStyle) (text : String) : List Mark :=
  let placement := l.place (style.measure text)
  (placement.plate.map fun plate => Mark.fill plate .ink).toList ++
    [.text style placement.origin placement.color text]

/-- The marks of a gauge: the track, then what is blank of it. -/
def Gauge.marks (g : Gauge) (progress : Single) : List Mark :=
  [.fill g.track .ink, .fill (Gauge.blank g.track progress) .paper]

/-- The marks of a widget with the value that the document has for it. -/
def Document.marksOf (d : Document) (style : TextStyle) (w : Widget) : List Mark :=
  match w, d.value? w.key with
  | .label l, some (.string text) => l.marks style text
  | .gauge g, some (.number progress) => g.marks progress.convert
  | _, _ => []

/-- The marks of all widgets, in the order of the document. -/
def Document.marks (d : Document) (style : TextStyle) : List Mark :=
  d.widgets.flatMap (d.marksOf style)

/-! ## Marks and surfaces -/

/-- The marks of a widget that has its value. -/
def Resolved.marks (style : TextStyle) : Resolved → List Mark
  | .label l text => l.marks style text
  | .gauge g progress => g.marks progress.convert

/-- A drawing takes marks at its end. -/
theorem Drawing.foldl_draw (marks : List Mark) (d : Drawing) :
    marks.foldl Mark.draw d = ⟨d.marks ++ marks⟩ := by
  induction marks generalizing d with
  | nil => simp
  | cons m rest ih =>
    rw [List.foldl_cons, ih, Drawing.marks_draw]
    simp

theorem Label.paint_eq_marks [FontMeasured σ] (l : Label) (style : TextStyle) (text : String)
    (surface : σ) : l.paint style text surface = (l.marks style text).foldl Mark.draw surface := by
  simp only [Label.paint, Label.marks, FontMeasured.measureText_eq]
  cases (l.place (style.measure text)).plate with
  | none => rfl
  | some plate => rfl

/-- Every decision of a widget is made before its marks are: they do not depend on the surface. -/
theorem Resolved.paint_eq_marks [FontMeasured σ] (style : TextStyle) (surface : σ)
    (r : Resolved) : r.paint style surface = (r.marks style).foldl Mark.draw surface := by
  cases r with
  | label l text => exact l.paint_eq_marks style text surface
  | gauge g progress => rfl

theorem foldl_paint_eq_marks [FontMeasured σ] (style : TextStyle) (widgets : List Resolved)
    (surface : σ) :
    widgets.foldl (Resolved.paint style) surface =
      (widgets.flatMap (Resolved.marks style)).foldl Mark.draw surface := by
  induction widgets generalizing surface with
  | nil => rfl
  | cons r rest ih =>
    rw [List.foldl_cons, ih, List.flatMap_cons, List.foldl_append, r.paint_eq_marks]

/-! ## Resolving -/

namespace Document

/-- A widget has either a bad reference or its value. -/
theorem resolve_cases (d : Document) (w : Widget) :
    (∃ fault, d.fault? w = some fault ∧ d.resolve w = .error fault) ∨
      ∃ r, d.fault? w = none ∧ d.resolve w = .ok r ∧
        ∀ style, r.marks style = d.marksOf style w := by
  unfold fault? marksOf
  cases w with
  | label l =>
    simp only [resolve, text, Widget.key, Widget.kind]
    rcases d.value? l.key with _ | (s | x | b)
    · exact .inl ⟨_, rfl, rfl⟩
    · exact .inr ⟨.label l s, rfl, rfl, fun _ => rfl⟩
    · exact .inl ⟨_, rfl, rfl⟩
    · exact .inl ⟨_, rfl, rfl⟩
  | gauge g =>
    simp only [resolve, number, Widget.key, Widget.kind]
    rcases d.value? g.key with _ | (s | x | b)
    · exact .inl ⟨_, rfl, rfl⟩
    · exact .inl ⟨_, rfl, rfl⟩
    · exact .inr ⟨.gauge g x, rfl, rfl, fun _ => rfl⟩
    · exact .inl ⟨_, rfl, rfl⟩

/-- Resolving stops at the first widget with a bad reference. If there is none, each widget has its
value, and makes the marks that the document says. -/
theorem mapM_resolve_cases (d : Document) (widgets : List Widget) :
    (∃ fault, widgets.findSome? d.fault? = some fault ∧
        widgets.mapM d.resolve = .error fault) ∨
      ∃ resolved, widgets.findSome? d.fault? = none ∧ widgets.mapM d.resolve = .ok resolved ∧
        ∀ style, resolved.flatMap (Resolved.marks style) =
          widgets.flatMap (d.marksOf style) := by
  induction widgets with
  | nil => exact .inr ⟨[], rfl, rfl, fun _ => rfl⟩
  | cons w rest ih =>
    -- a fault of this widget comes before those of the others
    rw [List.findSome?_cons, List.mapM_cons]
    rcases d.resolve_cases w with ⟨fault, hf, hr⟩ | ⟨r, hf, hr, hm⟩
    · rw [hf, hr]
      exact .inl ⟨fault, rfl, rfl⟩
    · rw [hf, hr]
      rcases ih with ⟨fault, hfs, hrs⟩ | ⟨resolved, hfs, hrs, hms⟩
      · rw [hrs]
        exact .inl ⟨fault, hfs, rfl⟩
      · rw [hrs]
        refine .inr ⟨r :: resolved, hfs, rfl, ?_⟩
        intro style
        rw [List.flatMap_cons, List.flatMap_cons, hm, hms]

/-- A bad reference concerns one request alone. -/
theorem isRequestFailure_of_fault? {d : Document} {w : Widget} {fault : Fault}
    (h : d.fault? w = some fault) : fault.isRequestFailure = true := by
  unfold fault? at h
  split at h
  · cases h
    rfl
  · split at h
    · cases h
    · cases h
      rfl

theorem paint_of_fault (d : Document) (style : TextStyle) (surface : σ) {fault : Fault}
    (h : d.widgets.findSome? d.fault? = some fault) :
    d.paint style surface = .error fault surface := by
  unfold paint resolveAll
  rcases d.mapM_resolve_cases d.widgets with ⟨fault', hf, hr⟩ | ⟨_, hf, _⟩
  · rw [h] at hf
    cases hf
    rw [hr]
  · rw [h] at hf
    cases hf

theorem paint_of_sound [FontMeasured σ] (d : Document) (style : TextStyle) (surface : σ)
    (h : d.widgets.findSome? d.fault? = none) :
    d.paint style surface = .ok () ((d.marks style).foldl Mark.draw surface) := by
  unfold paint resolveAll
  rcases d.mapM_resolve_cases d.widgets with ⟨_, hf, _⟩ | ⟨resolved, _, hr, hm⟩
  · rw [h] at hf
    cases hf
  · rw [hr]
    show EStateM.Result.ok () (resolved.foldl (Resolved.paint style) surface) = _
    rw [foldl_paint_eq_marks, hm]
    rfl

/-- The marks of a document set their texts in the style of the document. -/
theorem style_of_mem_marks {d : Document} {style style' : TextStyle} {origin : Point}
    {color : Color} {words : String} (h : Mark.text style' origin color words ∈ d.marks style) :
    style' = style := by
  obtain ⟨w, _, hw⟩ := List.mem_flatMap.1 h
  unfold marksOf at hw
  split at hw
  · next l text _ =>
    rcases List.mem_append.1 hw with hp | ht
    · obtain ⟨plate, _, hfill⟩ := Option.map_eq_some_iff.1 (Option.mem_toList.1 hp)
      cases hfill
    · cases List.mem_singleton.1 ht
      rfl
  · simp [Gauge.marks] at hw
  · cases hw

/-! ## All or nothing -/

/-- **A document paints all of its widgets in order, or nothing.** The first widget with a bad
reference decides the fault, and then the surface is as it was. Otherwise the surface takes the
marks of the widgets one after the other; a drawing takes them after those it had. -/
theorem paint_all_or_nothing [FontMeasured σ] (d : Document) (style : TextStyle) (surface : σ)
    (drawing : Drawing) :
    (∀ fault, d.widgets.findSome? d.fault? = some fault →
        d.paint style surface = .error fault surface ∧
        d.paint style drawing = .error fault drawing) ∧
      (d.widgets.findSome? d.fault? = none →
        d.paint style surface = .ok () ((d.marks style).foldl Mark.draw surface) ∧
        d.paint style drawing = .ok () ⟨drawing.marks ++ d.marks style⟩) := by
  constructor
  · intro fault h
    exact ⟨d.paint_of_fault style surface h, d.paint_of_fault style drawing h⟩
  · intro h
    refine ⟨d.paint_of_sound style surface h, ?_⟩
    rw [d.paint_of_sound style drawing h, Drawing.foldl_draw]

/-- A gauge that could be painted stands before a label whose text is missing. -/
theorem paint_all_or_nothing_missing_text :
    (Document.mk [.gauge ⟨{}, {}, "load"⟩, .label ⟨{}, {}, true, true, "clock"⟩]
        [("load", .number 0), ("up", .boolean true)]).paint ⟨.inkless, 8⟩
          (Drawing.mk [.fill ⟨0, 0, 4, 4⟩ .ink]) =
      .error (.unresolved "clock" .string) ⟨[.fill ⟨0, 0, 4, 4⟩ .ink]⟩ :=
  ((paint_all_or_nothing _ ⟨.inkless, 8⟩ (Drawing.mk [.fill ⟨0, 0, 4, 4⟩ .ink]) {}).1 _ rfl).1

/-! ## Recording and replaying -/

/-- **Painting on a picture is replaying the recorded drawing.** If recording the document fails,
painting it on the picture fails in the same way and leaves the picture as it was. The recorded
texts have the font and the size of the document's style. -/
theorem paint_picture_eq_replay (d : Document) (style : TextStyle) (picture : Picture) :
    match d.paint style ({} : Drawing) with
    | .ok () recorded =>
      d.paint style picture = .ok () (recorded.replay picture) ∧
        ∀ style' origin color words,
          Mark.text style' origin color words ∈ recorded.marks → style' = style
    | .error fault _ => d.paint style picture = .error fault picture := by
  cases h : d.widgets.findSome? d.fault? with
  | some fault =>
    rw [d.paint_of_fault style ({} : Drawing) h]
    exact d.paint_of_fault style picture h
  | none =>
    rw [d.paint_of_sound style ({} : Drawing) h, Drawing.foldl_draw]
    refine ⟨d.paint_of_sound style picture h, ?_⟩
    intro style' origin color words hm
    exact style_of_mem_marks hm

end Document

end StatusPanel
