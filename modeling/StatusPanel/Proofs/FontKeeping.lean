import StatusPanel.Proofs.Service
import StatusPanel.Proofs.Stages

/-!
# Fonts that are kept

A shelf is asked for fonts one after the other, while the files change as they will. One that keeps
its fonts gives for a path what the first successful reading for that path gave (`lookup_after`);
one that reloads gives what the file holds. A failed reading leaves a shelf as it was, and what was
asked for other paths does not matter (`lookup_after_filter`). A renderer asks its shelf for every
document, so these laws decide which font it draws with, and how its session ends.
-/

namespace StatusPanel

/-- A font that is wanted: the path of its file, and the files as they are at that moment. -/
structure Wish where
  files : Files
  path : String

namespace Wish

/-- What tells the path from others. -/
def key (w : Wish) : List String :=
  Path.components w.path

/-- The font in the file as it is at that moment, or the fault of reading it. -/
def parse (w : Wish) : Except Fault ShelvedFont :=
  ShelvedFont.ofFile w.path ((w.files.read w.path).mapError FileFault.text)

theorem fault_of_parse {w : Wish} {fault : Fault} (h : w.parse = .error fault) :
    ∃ reason, fault = .font reason := by
  unfold parse ShelvedFont.ofFile at h
  split at h
  · cases h
    exact ⟨_, rfl⟩
  · split at h
    · cases h
    · cases h
      exact ⟨_, rfl⟩

end Wish

namespace Shelf

/-! ## Wishes one after the other -/

/-- What a shelf gives for a wish. -/
def answer (s : Shelf) (w : Wish) : Except Fault ShelvedFont :=
  (s.load w.files w.path).1

/-- The shelf after a wish. -/
def next (s : Shelf) (w : Wish) : Shelf :=
  (s.load w.files w.path).2.1

/-- The shelf after some wishes. -/
def after (s : Shelf) (wishes : List Wish) : Shelf :=
  wishes.foldl next s

/-- What a shelf gives for some wishes. -/
def answers (s : Shelf) : List Wish → List (Except Fault ShelvedFont)
  | [] => []
  | w :: rest => s.answer w :: (s.next w).answers rest

/-- The font of the first wish for a path that was granted. -/
def firstGranted? (key : List String) (history : List (Wish × Except Fault ShelvedFont)) :
    Option ShelvedFont :=
  history.findSome? fun (w, answer) => if w.key = key then answer.toOption else none

theorem firstGranted?_cons (key : List String) (w : Wish) (answer : Except Fault ShelvedFont)
    (history : List (Wish × Except Fault ShelvedFont)) :
    firstGranted? key ((w, answer) :: history) =
      (if w.key = key then answer.toOption else none).or (firstGranted? key history) := by
  simp only [firstGranted?, List.findSome?_cons]
  cases (if w.key = key then answer.toOption else none) with
  | none => rfl
  | some font => rfl

variable {s t : Shelf}

/-- A font that is ready is given; any other is read. -/
theorem answer_eq (s : Shelf) (w : Wish) :
    s.answer w = match s.ready? w.path with
      | some font => .ok font
      | none => w.parse := by
  unfold answer load
  cases s.ready? w.path with
  | some font => rfl
  | none =>
    unfold receive Wish.parse
    cases ShelvedFont.ofFile w.path ((w.files.read w.path).mapError FileFault.text) <;> rfl

/-- A shelf has one font more when a file was read for it. -/
theorem next_eq (s : Shelf) (w : Wish) :
    s.next w = match s.ready? w.path, w.parse with
      | none, .ok font => { s with fonts := (w.key, font) :: s.fonts }
      | _, _ => s := by
  unfold next load
  cases s.ready? w.path with
  | some font => rfl
  | none =>
    unfold receive Wish.parse
    cases ShelvedFont.ofFile w.path ((w.files.read w.path).mapError FileFault.text) <;> rfl

/-- **A failed wish leaves the shelf as it was.** -/
theorem next_of_answer_error {w : Wish} {fault : Fault} (h : s.answer w = .error fault) :
    s.next w = s := by
  rw [answer_eq] at h
  rw [next_eq]
  cases hready : s.ready? w.path with
  | some font => rfl
  | none =>
    rw [hready] at h
    dsimp only at h
    rw [h]

@[simp] theorem reloads_next (s : Shelf) (w : Wish) : (s.next w).reloads = s.reloads := by
  rw [next_eq]
  split <;> rfl

theorem reloads_after (s : Shelf) (wishes : List Wish) : (s.after wishes).reloads = s.reloads := by
  induction wishes generalizing s with
  | nil => rfl
  | cons w rest ih => exact (ih (s.next w)).trans (s.reloads_next w)

/-- A shelf that reloads reads every font. -/
theorem answer_of_reloads (h : s.reloads = true) (w : Wish) : s.answer w = w.parse := by
  rw [answer_eq, ready?, if_pos h]

/-! ## Shelves that keep their fonts -/

theorem answer_of_keeps (h : s.reloads = false) (w : Wish) :
    s.answer w = match s.fonts.lookup w.key with
      | some font => .ok font
      | none => w.parse := by
  rw [answer_eq, ready?, if_neg (by simp [h])]
  rfl

/-- A wish for a path puts a font there if there was none, and leaves the other paths alone. -/
theorem lookup_next (h : s.reloads = false) (w : Wish) (key : List String) :
    (s.next w).fonts.lookup key =
      (s.fonts.lookup key).or (if w.key = key then (s.answer w).toOption else none) := by
  have hready : s.ready? w.path = s.fonts.lookup w.key := by
    rw [ready?, if_neg (by simp [h])]
    rfl
  rw [next_eq, answer_of_keeps h, hready]
  cases hold : s.fonts.lookup w.key with
  | some font =>
    by_cases hk : w.key = key
    · subst hk
      rw [hold]
      rfl
    · rw [if_neg hk, Option.or_none]
  | none =>
    cases w.parse with
    | error fault =>
      show s.fonts.lookup key = _
      simp [Except.toOption]
    | ok font =>
      dsimp only
      rw [List.lookup_cons]
      by_cases hk : w.key = key
      · subst hk
        simp [hold, Except.toOption]
      · have hne : (key == w.key) = false := by simpa using Ne.symm hk
        rw [hne, if_neg hk, Option.or_none]

/-- **What is kept for a path is the font of the first wish for it that was granted.** -/
theorem lookup_after (h : s.reloads = false) (wishes : List Wish) (key : List String) :
    (s.after wishes).fonts.lookup key =
      (s.fonts.lookup key).or (firstGranted? key (wishes.zip (s.answers wishes))) := by
  induction wishes generalizing s with
  | nil => exact (Option.or_none ..).symm
  | cons w rest ih =>
    show ((s.next w).after rest).fonts.lookup key = _
    rw [ih ((s.reloads_next w).trans h), lookup_next h, Option.or_assoc]
    exact congrArg _ (firstGranted?_cons ..).symm

/-- What was wished for other paths makes no difference to what is kept for a path. -/
theorem lookup_after_filter (hs : s.reloads = false) (ht : t.reloads = false) (key : List String)
    (heq : s.fonts.lookup key = t.fonts.lookup key) (wishes : List Wish) :
    (s.after wishes).fonts.lookup key =
      (t.after (wishes.filter fun w => w.key = key)).fonts.lookup key := by
  induction wishes generalizing s t with
  | nil => exact heq
  | cons w rest ih =>
    by_cases hk : w.key = key
    · rw [List.filter_cons_of_pos (by simpa using hk)]
      refine ih ((s.reloads_next w).trans hs) ((t.reloads_next w).trans ht) ?_
      rw [lookup_next hs, lookup_next ht, answer_of_keeps hs, answer_of_keeps ht, hk, heq]
    · rw [List.filter_cons_of_neg (by simpa using hk)]
      refine ih ((s.reloads_next w).trans hs) ht ?_
      rw [lookup_next hs, if_neg hk, Option.or_none, heq]

end Shelf

/-! ## Renderers with a font file -/

namespace Renderer

/-- What the renderer makes of documents one after the other, each with the files of its moment. -/
def pictures (r : Renderer) : List (Files × Document) → List (Except Fault Picture)
  | [] => []
  | (files, d) :: rest => (r.render files d).1 :: (r.render files d).2.pictures rest

/-- The font that a renderer draws with when the files are as given: the one that was read when it
was made, unless it reloads. -/
def fontAt (settings : Settings) (kept : ShelvedFont) (files : Files) :
    Except Fault ShelvedFont :=
  if settings.reloadFont then Wish.parse ⟨files, settings.fontPath⟩ else .ok kept

/-- The renderer has its font from the file of its settings, where the given one was found when it
was made. -/
structure Uses (r : Renderer) (settings : Settings) (kept : ShelvedFont) : Prop where
  settings_eq : r.settings = settings
  origin : r.origin = .file settings.fontPath
  reloads : r.shelf.reloads = settings.reloadFont
  keeps : settings.reloadFont = false →
    r.shelf.fonts.lookup (Path.components settings.fontPath) = some kept

variable {r t : Renderer} {settings : Settings} {kept : ShelvedFont}

theorem draw_of_settings (h : r.settings = t.settings) (font : Font) (d : Document) :
    r.draw font d = t.draw font d := by
  unfold draw
  rw [h]

/-- A renderer that could be made has read its font. -/
theorem uses_of_load {files : Files} (h : load files settings = .ok r) :
    ∃ kept, Wish.parse ⟨files, settings.fontPath⟩ = .ok kept ∧ r.Uses settings kept := by
  unfold load ofFile Shelf.receive at h
  unfold Wish.parse
  split at h
  · cases h
  · dsimp only at h ⊢
    cases hfont : ShelvedFont.ofFile settings.fontPath
        ((files.read settings.fontPath).mapError FileFault.text) with
    | error fault =>
      rw [hfont] at h
      cases h
    | ok kept =>
      rw [hfont] at h
      cases h
      exact ⟨kept, rfl, rfl, rfl, rfl, fun _ => List.lookup_cons_self⟩

/-- Each document is drawn with the font of its moment, and the renderer stays what it is. -/
theorem Uses.render (h : r.Uses settings kept) (files : Files) (d : Document) :
    (r.render files d).1 = (fontAt settings kept files).bind (fun f => r.draw f.font d) ∧
      (r.render files d).2.Uses settings kept := by
  cases hmode : settings.reloadFont with
  | false =>
    have hneed : r.fontNeed = .ready kept.font := by
      simp only [fontNeed, h.origin, Shelf.ready?, h.reloads, hmode, h.keeps hmode]
      rfl
    simp only [Renderer.render, hneed, fontAt, hmode]
    exact ⟨rfl, h⟩
  | true =>
    have hneed : r.fontNeed = .file settings.fontPath := by
      simp only [fontNeed, h.origin, Shelf.ready?, h.reloads, hmode]
      rfl
    simp only [Renderer.render, hneed, fontAt, hmode, if_true, receive, Shelf.receive, Wish.parse]
    cases ShelvedFont.ofFile settings.fontPath
        ((files.read settings.fontPath).mapError FileFault.text) with
    | error fault => exact ⟨rfl, h⟩
    | ok font =>
      exact ⟨rfl, h.settings_eq, h.origin, h.reloads, fun hkeep => by simp [hmode] at hkeep⟩

theorem Uses.renderPayload (h : r.Uses settings kept) (files : Files) (payload : Bytes) :
    (r.renderPayload files payload).2.Uses settings kept := by
  unfold Renderer.renderPayload
  cases Document.read payload with
  | error fault => exact h
  | ok d => exact (h.render files d).2

theorem Uses.pictures_eq (h : r.Uses settings kept) (moments : List (Files × Document)) :
    r.pictures moments =
      moments.map fun m => (fontAt settings kept m.1).bind fun f => r.draw f.font m.2 := by
  induction moments generalizing r with
  | nil => rfl
  | cons m rest ih =>
    obtain ⟨files, d⟩ := m
    obtain ⟨hpicture, hnext⟩ := h.render files d
    have hdraw := draw_of_settings (hnext.settings_eq.trans h.settings_eq.symm)
    simp only [pictures, List.map_cons, hpicture, ih hnext, hdraw]

end Renderer

/-! ## Sessions whose files change -/

/-- No reading of the input fails for the font. -/
theorem Frame.Progress.ne_font_of_advance {limit : Nat} {p : Progress} {d : Delivery}
    {fault : Fault} (h : p.advance limit d = .complete (.error fault)) (reason : String) :
    fault ≠ .font reason := by
  rintro rfl
  unfold advance at h
  split at h
  · cases h
  · cases h
  · cases h
  · cases h
  · cases h
  · dsimp only at h
    split at h
    · cases h
    · unfold beginPayload at h
      split at h
      · cases h
      · split at h <;> cases h
  · dsimp only at h
    split at h <;> cases h

namespace Conversation

variable {start c e : Conversation}

/-- A session that is closed for the font had no picture of its request for that reason. -/
theorem Closing.rendering_of_font {reason : String} {ending : List Stage}
    (h : c.Closing (.error (.font reason)) ending) :
    ∃ payload, c.session.phase = .rendering payload ∧
      (c.session.renderer.renderPayload c.files payload).1 = .error (.font reason) := by
  cases h with
  | unread hp ha => exact absurd rfl (Frame.Progress.ne_font_of_advance ha reason)
  | unrendered hp hpicture _ => exact ⟨_, hp, hpicture⟩

/-- Rendering is all that changes a renderer. -/
theorem renderer_step (c : Conversation) :
    c.step.session.renderer = c.session.renderer ∨
      ∃ payload, c.session.phase = .rendering payload ∧
        c.step.session.renderer = (c.session.renderer.renderPayload c.files payload).2 := by
  cases hp : c.session.phase with
  | idle =>
    rw [step_idle hp]
    exact .inl rfl
  | receiving p =>
    rw [step_receiving hp]
    left
    simp only [Session.deliver]
    split
    · rfl
    · next frame _ =>
      rcases frame with fault | _ | payload
      · exact Session.renderer_close ..
      · exact Session.renderer_close ..
      · rfl
  | rendering payload =>
    obtain ⟨t, hconclude, ht, _⟩ := c.session.rendered_eq_conclude c.files payload
    refine .inr ⟨payload, rfl, ?_⟩
    rw [step_rendering hp, ← ht]
    exact (congrArg Session.renderer hconclude).trans (t.conclude_decided _).1
  | responding rest =>
    left
    cases rest with
    | nil =>
      rw [step_flush hp]
      simp only [Session.flushed]
      split
      · rfl
      · exact Session.renderer_close ..
    | cons part rest =>
      rw [step_write hp]
      simp only [Session.written]
      split
      · rfl
      · exact Session.renderer_close ..
  | closed outcome => exact .inl (by rw [step_closed (by simp [isClosed, hp, Phase.stage])])

/-- A session that has closed stays so, and takes nothing and gives nothing any more. -/
theorem Wanders.eq_of_closed (h : c.Wanders e) (hclosed : c.isClosed = true) :
    e = { c with files := e.files } := by
  induction h with
  | refl => rfl
  | change files _ ih => rw [ih]
  | @step d _ ih =>
    have hd : d.isClosed = true := by
      rw [ih]
      exact hclosed
    rw [step_closed hd]
    exact ih

variable {settings : Settings} {kept : ShelvedFont}

/-- The renderer has its font from one file all through a session. -/
theorem Wanders.uses (h : start.Wanders c) (hs : start.session.renderer.Uses settings kept) :
    c.session.renderer.Uses settings kept := by
  induction h with
  | refl => exact hs
  | change files _ ih => exact ih
  | @step d _ ih =>
    rcases d.renderer_step with hsame | ⟨payload, _, hrendered⟩
    · rw [hsame]
      exact ih
    · rw [hrendered]
      exact ih.renderPayload d.files payload

/-- The request at hand is drawn with the font of this moment. -/
theorem picture_of_uses (h : c.session.renderer.Uses settings kept) {payload : Bytes}
    {d : Document} (hd : Document.read payload = .ok d) :
    (c.session.renderer.renderPayload c.files payload).1 =
      (Renderer.fontAt settings kept c.files).bind fun f => c.session.renderer.draw f.font d := by
  unfold Renderer.renderPayload
  rw [hd]
  exact (h.render c.files d).1

/-- **Without a font the session closes**, whatever its policy is. -/
theorem closes_of_fontAt (h : c.session.renderer.Uses settings kept) (htrack : c.session.OnTrack)
    {payload : Bytes} {d : Document} {fault : Fault} (hp : c.session.phase = .rendering payload)
    (hd : Document.read payload = .ok d)
    (hfault : Renderer.fontAt settings kept c.files = .error fault) :
    c.step.session.phase = .closed (.error fault) := by
  have hpicture : (c.session.renderer.renderPayload c.files payload).1 = .error fault := by
    rw [picture_of_uses h hd, hfault]
    rfl
  have hskips : c.session.skips fault = false := by
    unfold Renderer.fontAt at hfault
    split at hfault
    · obtain ⟨reason, rfl⟩ := Wish.fault_of_parse hfault
      rfl
    · cases hfault
  exact ((Closing.unrendered hp hpicture hskips).step htrack).1

/-- A session with a font that is kept never closes for want of a font. -/
theorem Wanders.ne_closed_font (h : start.Wanders c) (hs : start.session.OnTrack)
    (huses : start.session.renderer.Uses settings kept) (hkeeps : settings.reloadFont = false)
    (reason : String) : c.session.phase ≠ .closed (.error (.font reason)) := by
  induction h with
  | refl =>
    intro hp
    rw [Session.OnTrack, hp] at hs
    exact hs
  | change files _ ih => exact ih
  | @step d hd ih =>
    cases hclosed : d.isClosed with
    | true =>
      rw [step_closed hclosed]
      exact ih
    | false =>
      have htrack := hd.onTrack hs hclosed
      intro hp
      rcases onTrack_step htrack with hnext | ⟨outcome, ending, hclosing⟩
      · rw [Session.OnTrack, hp] at hnext
        exact hnext
      · have houtcome : outcome = .error (.font reason) := by
          rw [(hclosing.step htrack).1] at hp
          exact Phase.closed.inj hp
        subst houtcome
        obtain ⟨payload, _, hpicture⟩ := hclosing.rendering_of_font
        have hduses := hd.uses huses
        cases hread : Document.read payload with
        | error fault =>
          simp only [Renderer.renderPayload, hread] at hpicture
          cases hpicture
          cases Document.isRequestFailure_of_read hread
        | ok document =>
          rw [picture_of_uses hduses hread, Renderer.fontAt, hkeeps] at hpicture
          cases Renderer.isRequestFailure_of_draw hpicture

end Conversation

/-- A font file whose tables lie over its directory and over one another. -/
def Font.smallestFile : Bytes :=
  [0, 1, 0, 0, 0, 3, 0, 0, 0, 0, 0, 0,
    104, 101, 97, 100, 0, 0, 0, 16, 0, 0, 0, 0, 0, 0, 0, 54,
    104, 104, 101, 97, 0, 0, 0, 0, 0, 0, 0, 0, 0, 0, 0, 36,
    109, 97, 120, 112, 0, 0, 0, 0, 0, 0, 0, 0, 0, 0, 0, 6]

end StatusPanel
