import StatusPanel.OneShot
import StatusPanel.Proofs.CommandLineSizes
import StatusPanel.Proofs.FileWriting
import StatusPanel.Proofs.FontKeeping
import StatusPanel.Proofs.PictureFiles
import StatusPanel.Proofs.TwoTone
import StatusPanel.Proofs.WidgetSchema

/-!
# What a run leaves behind

A run that draws one document reads before it writes: it comes to a picture or to a failure with the
files as they are (`drawn`), and only then delivers (`run_plan`). So what goes wrong before there is
a picture changes no file; what goes wrong after it is a panel that does not split into pages, and
then the picture is written already.
-/

namespace StatusPanel

theorem mapError_eq_ok_iff {ε δ α : Type} {x : Except ε α} {f : ε → δ} {a : α} :
    x.mapError f = .ok a ↔ x = .ok a := by
  cases x <;> simp [Except.mapError]

theorem Settings.pos_of_validate {s : Settings} (h : s.validate = .ok ()) :
    0 < s.width ∧ 0 < s.height := by
  unfold Settings.validate at h
  split at h
  · cases h
  · omega

/-- Documents are painted in two tones, on all of the picture. -/
theorem Document.twoTone_of_paint {d : Document} {style : TextStyle} {width height : Nat}
    {picture : Picture} (h : d.paint style (Picture.blank width height) = .ok () picture) :
    picture.TwoTone ∧ picture.width = width ∧ picture.height = height := by
  cases hfault : d.widgets.findSome? d.fault? with
  | some fault =>
    rw [d.paint_of_fault style _ hfault] at h
    cases h
  | none =>
    rw [d.paint_of_sound style _ hfault] at h
    cases h
    have tones := (Picture.TwoTone.blank width height).foldl_draw fun m
      (hm : m ∈ d.marks style) => isTone_of_mem_marks hm
    exact ⟨tones, Picture.size_foldl_draw (d.marks style) (Picture.blank width height)⟩

theorem Panel.not_aligned_of_pages_error {p : Panel} {fault : Fault}
    (h : p.pages = .error fault) : ¬(p.width % chipWidth = 0 ∧ p.height % pageHeight = 0) := by
  intro aligned
  rw [p.pages_eq_ok_iff.2 ⟨aligned, rfl⟩] at h
  cases h

/-- The pages of a picture in two tones tell where its ink is. -/
theorem Panel.ink_of_pages {p : Picture} {bytes : Bytes} (tones : p.TwoTone)
    (h : (ofPicture p).pages = .ok bytes) : bytes.length = p.width * p.height / 8 ∧
      ∀ x y, (ofPages p.width p.height bytes).isLit (x, y) = true ↔
        p.pixel? (x, y) = some .ink := by
  obtain ⟨⟨hw, hh⟩, rfl⟩ := (ofPicture p).pages_eq_ok_iff.1 h
  refine ⟨(length_strips _).trans (chips_mul_pages hw hh), fun x y => ?_⟩
  have hpanel : ofPages p.width p.height (ofPicture p).strips = ofPicture p :=
    (ofPicture p).ofPages_strips hw hh
  rw [hpanel]
  exact isLit_of_twoTone tones (x, y)

/-- Gauges are drawn without text. -/
theorem Document.marksOf_gauge (d : Document) (style style' : TextStyle) (g : Gauge) :
    d.marksOf style (.gauge g) = d.marksOf style' (.gauge g) := by
  simp only [marksOf]
  cases d.value? (Widget.gauge g).key with
  | none => rfl
  | some value => cases value <;> rfl

namespace Renderer

variable {files : Files} {settings : Settings}

theorem load_eq : load files settings =
    (ofFile settings ((files.read settings.fontPath).mapError FileFault.text)).map (·.1) := rfl

/-- Settings that make no sense are refused whatever the files are. -/
theorem load_of_invalid (files : Files) {fault : Fault} (h : settings.validate = .error fault) :
    load files settings = .error fault := by
  rw [load_eq, ofFile]
  split
  · next hinvalid =>
    rw [h] at hinvalid
    cases hinvalid
    rfl
  · next hvalid =>
    rw [h] at hvalid
    cases hvalid

/-- A renderer is made if its font can be used. -/
theorem exists_load {contents : Bytes} (h : files.read settings.fontPath = .ok contents)
    (hmade : (ofFile settings (.ok contents)).isOk = true) :
    ∃ r, load files settings = .ok r := by
  rw [load_eq, h]
  change ∃ r, (ofFile settings (.ok contents)).map _ = .ok r
  cases hr : ofFile settings (.ok contents) with
  | error fault =>
    rw [hr] at hmade
    cases hmade
  | ok made => exact ⟨made.1, rfl⟩

end Renderer

namespace OneShot

/-! ## Before anything is written -/

/-- The picture of the document in a file, or what is said if there is none. -/
def drawn (files : Files) (settings : Settings) (input : String) : Except String Picture := do
  let payload ← (files.read input).mapError fun fault => s!"reading {input}: {fault.text}"
  let d ← (Document.read payload).mapError fun fault => s!"decoding {input}: {fault.message}"
  let r ← (Renderer.load files settings).mapError Fault.message
  (r.render files d).1.mapError Fault.message

variable (settings : Settings) (input output : String) (packed : Option String) (files : Files)

/-- A drawing is delivered if there is one. -/
theorem run_draw (d : Document) (r : Renderer) (font : Font) :
    (draw output packed d r font).run files =
      match r.draw font d with
      | .ok picture => (deliver output packed picture).run files
      | .error fault => (.error fault.message, files) := by
  unfold draw
  cases r.draw font d <;> rfl

theorem run_render (d : Document) :
    (render settings output packed d).run files =
      match (Renderer.load files settings).bind fun r => (r.render files d).1 with
      | .ok picture => (deliver output packed picture).run files
      | .error fault => (.error fault.message, files) := by
  unfold render
  split
  · next fault hinvalid =>
    rw [Renderer.load_of_invalid files hinvalid]
    rfl
  · rw [Renderer.load_eq, Plan.run]
    cases Renderer.ofFile settings ((files.read settings.fontPath).mapError FileFault.text) with
    | error fault => rfl
    | ok made =>
      obtain ⟨r, event⟩ := made
      simp only [Except.map, Except.bind, Renderer.render]
      cases r.fontNeed with
      | ready font => exact run_draw ..
      | file path =>
        simp only [Plan.run]
        cases r.receive path ((files.read path).mapError FileFault.text) with
        | error fault => rfl
        | ok received => exact run_draw ..

/-- **Nothing is written before there is a picture.** -/
theorem run_plan : (plan settings input output packed).run files =
    match drawn files settings input with
    | .ok picture => (deliver output packed picture).run files
    | .error text => (.error text, files) := by
  unfold plan drawn
  rw [Plan.run]
  cases files.read input with
  | error fault => rfl
  | ok payload =>
    simp only [Except.mapError, bind, Except.bind]
    cases Document.read payload with
    | error fault => rfl
    | ok d =>
      dsimp only
      rw [run_render]
      cases Renderer.load files settings with
      | error fault => rfl
      | ok r =>
        simp only [Except.bind]
        cases (r.render files d).1 <;> rfl

variable {settings input output packed files} {picture : Picture} {place target : List String}

/-- There is a picture if all that is read can be used, and the document can be drawn. -/
theorem drawn_eq_ok_iff : drawn files settings input = .ok picture ↔
    ∃ payload, files.read input = .ok payload ∧ ∃ d, Document.read payload = .ok d ∧
      ∃ r, Renderer.load files settings = .ok r ∧ (r.render files d).1 = .ok picture := by
  simp only [drawn, bind_eq_ok_iff, mapError_eq_ok_iff]

/-- The settings make sense, and the picture is what a document paints at their size. -/
theorem exists_paint_of_drawn (h : drawn files settings input = .ok picture) :
    settings.validate = .ok () ∧ ∃ (d : Document) (style : TextStyle),
      d.paint style (Picture.blank settings.width settings.height) = .ok () picture := by
  obtain ⟨payload, -, d, -, r, hload, hrender⟩ := drawn_eq_ok_iff.1 h
  obtain ⟨kept, -, huses⟩ := Renderer.uses_of_load hload
  rw [(huses.render files d).1] at hrender
  obtain ⟨font, -, hdraw⟩ := bind_eq_ok_iff.1 hrender
  refine ⟨huses.settings_eq ▸ r.valid, d, ⟨font.font, settings.fontSize⟩, ?_⟩
  unfold Renderer.draw at hdraw
  rw [huses.settings_eq] at hdraw
  split at hdraw
  · next hpaint =>
    cases hdraw
    exact hpaint
  · cases hdraw

theorem twoTone_of_drawn (h : drawn files settings input = .ok picture) :
    picture.TwoTone ∧ picture.width = settings.width ∧ picture.height = settings.height :=
  have ⟨_, _, _, hpaint⟩ := exists_paint_of_drawn h
  Document.twoTone_of_paint hpaint

/-! ## Delivery -/

theorem run_writing {path : String} (h : files.Holds path place) (contents : Bytes) (next : Plan) :
    (writing path contents next).run files = next.run (files.put place contents) := by
  simp only [writing, Plan.run, h.write_eq]

theorem run_deliver_none (h : files.Holds output place) :
    (deliver output none picture).run files =
      (.ok (), files.put place (Png.write picture)) := by
  unfold deliver
  rw [run_writing h]
  rfl

/-- The pages of a picture that can be read again are those of the panel that shows it. -/
theorem run_deliver_some {path : String} (h : files.Holds output place)
    (hpath : files.Holds path target) (hread : Png.read (Png.write picture) = .ok picture) :
    (deliver output (some path) picture).run files =
      match (Panel.ofPicture picture).pages with
      | .ok bytes => (.ok (), (files.put place (Png.write picture)).put target bytes)
      | .error fault => (.error fault.message, files.put place (Png.write picture)) := by
  have hpages : pages (Png.write picture) = (Panel.ofPicture picture).pages := by
    rw [pages, hread]
    rfl
  unfold deliver
  rw [run_writing h]
  simp only [hpages]
  cases (Panel.ofPicture picture).pages with
  | error fault => rfl
  | ok bytes =>
    dsimp only
    rw [run_writing (h.put _ hpath)]
    rfl

/-! ## A document and a font -/

/-- A document in one file and a font in another. -/
def desk (payload : Bytes) : Files :=
  ⟨[(["d"], payload), (["f"], Font.smallestFile)]⟩

/-- Where the files of a run with them are. -/
theorem holds_desk (payload : Bytes) {name : String} (h : name ∈ ["d", "f", "o", "p"]) :
    (desk payload).Holds name [name] := by
  simp only [List.mem_cons, List.not_mem_nil, or_false] at h
  have hpieces : name.splitOn "/" = [name] := by
    rcases h with rfl | rfl | rfl | rfl
    all_goals
      rw [String.splitOn, if_neg (by decide), String.splitOnAux, if_neg (by decide +kernel),
        if_neg (by decide +kernel), String.splitOnAux, if_pos (by decide +kernel)]
      decide +kernel
  obtain ⟨hne, hnamed, henter⟩ : name ≠ "" ∧ ¬name.endsWith "/" ∧
      Path.enter (Path.start name) name = [name] := by
    rcases h with rfl | rfl | rfl | rfl <;> decide +kernel
  refine ⟨fun h => hnamed h.2, ?_, ?_⟩
  · rw [Files.place, if_neg hne, hpieces]
    exact congrArg Except.ok henter
  · rcases h with rfl | rfl | rfl | rfl <;> rfl

/-- A document that is painted alike in every font is drawn. -/
theorem drawn_desk {payload : Bytes} {settings : Settings} {d : Document} {picture : Picture}
    (hpath : settings.fontPath = "f") (hdecode : Document.read payload = .ok d)
    (hmade : (Renderer.ofFile settings (.ok Font.smallestFile)).isOk = true)
    (hpaint : ∀ style, d.paint style (Picture.blank settings.width settings.height) =
      .ok () picture) : drawn (desk payload) settings "d" = .ok picture := by
  have hread : (desk payload).read "d" = .ok payload :=
    (holds_desk payload (by decide)).read_eq
  have hfont : (desk payload).read settings.fontPath = .ok Font.smallestFile := by
    rw [hpath]
    exact (holds_desk payload (by decide)).read_eq
  obtain ⟨r, hload⟩ := Renderer.exists_load hfont hmade
  obtain ⟨kept, hparse, huses⟩ := Renderer.uses_of_load hload
  have hkept : Renderer.fontAt settings kept (desk payload) = .ok kept := by
    rw [Renderer.fontAt, hparse, ite_self]
  refine drawn_eq_ok_iff.2 ⟨payload, hread, d, hdecode, r, hload, ?_⟩
  rw [(huses.render (desk payload) d).1, hkept]
  show r.draw kept.font d = .ok picture
  unfold Renderer.draw
  rw [huses.settings_eq, hpaint]

/-! ## The whole run -/

section

variable {args : List String}
  (command : CommandLine.read args = .render settings input output packed)

include command in
/-- **A picture that is drawn is in its file.** -/
theorem read_write_of_drawn (h : drawn files settings input = .ok picture) :
    Png.read (Png.write picture) = .ok picture := by
  have hsized := CommandLine.read_isSized args
  rw [command] at hsized
  obtain ⟨hvalid, -⟩ := exists_paint_of_drawn h
  obtain ⟨-, hwidth, hheight⟩ := twoTone_of_drawn h
  have hpos := Settings.pos_of_validate hvalid
  exact Png.read_write picture (hwidth ▸ ⟨hpos.1, hsized.1⟩) (hheight ▸ ⟨hpos.2, hsized.2⟩)

include command in
/-- **A run that fails without a picture changes no file; one that fails with a picture has written
the picture and nothing else, because the panel does not split into pages. What a run that succeeds
has packed is the ink of the picture that it has written.** -/
theorem files_after_run (files : Files) (output_writable : files.Writable output)
    (packed_writable : ∀ path, packed = some path → files.Writable path) :
    let last := (plan settings input output packed).run files
    (∀ text, last.1 = .error text →
      (drawn files settings input = .error text ∧ last.2 = files) ∨
        ∃ picture path fault, drawn files settings input = .ok picture ∧ packed = some path ∧
          ¬(settings.width % 64 = 0 ∧ settings.height % 8 = 0) ∧
          (Panel.ofPicture picture).pages = .error fault ∧ text = fault.message ∧
          last.2.read output = .ok (Png.write picture) ∧ files.SameBut last.2 [output]) ∧
      (last.1 = .ok () → ∃ picture, drawn files settings input = .ok picture ∧
        Png.read (Png.write picture) = .ok picture ∧
        ((∀ path, packed = some path → files.place path ≠ files.place output) →
          last.2.read output = .ok (Png.write picture)) ∧
        files.SameBut last.2 (output :: packed.toList) ∧
        ∀ path, packed = some path → ∃ pages, last.2.read path = .ok pages ∧
          pages.length = picture.width * picture.height / 8 ∧
          ∀ x y, (Panel.ofPages picture.width picture.height pages).isLit (x, y) = true ↔
            picture.pixel? (x, y) = some .ink) := by
  intro last
  have hlast : last = _ := run_plan settings input output packed files
  clear_value last
  obtain ⟨place, hplace⟩ := output_writable.exists_holds
  cases hdrawn : drawn files settings input with
  | error text =>
    rw [hdrawn] at hlast
    subst hlast
    refine ⟨fun _ h => .inl ?_, nofun⟩
    cases h
    exact ⟨rfl, rfl⟩
  | ok picture =>
    rw [hdrawn] at hlast
    have hread := read_write_of_drawn command hdrawn
    obtain ⟨tones, hwidth, hheight⟩ := twoTone_of_drawn hdrawn
    cases packed with
    | none =>
      replace hlast := hlast.trans (run_deliver_none hplace)
      subst hlast
      exact ⟨nofun, fun _ => ⟨picture, rfl, hread, fun _ => hplace.read_put _,
        hplace.sameBut_put _, nofun⟩⟩
    | some path =>
      obtain ⟨target, htarget⟩ := (packed_writable path rfl).exists_holds
      replace hlast := hlast.trans (run_deliver_some hplace htarget hread)
      cases hpages : (Panel.ofPicture picture).pages with
      | error fault =>
        rw [hpages] at hlast
        subst hlast
        refine ⟨fun text h => .inr ⟨picture, path, fault, rfl, rfl, ?_, hpages, ?_,
          hplace.read_put _, hplace.sameBut_put _⟩, nofun⟩
        · rw [← hwidth, ← hheight]
          exact Panel.not_aligned_of_pages_error hpages
        · exact (Except.error.inj h).symm
      | ok bytes =>
        rw [hpages] at hlast
        subst hlast
        refine ⟨nofun, fun _ => ⟨picture, rfl, hread, fun hdistinct => ?_,
          hplace.sameBut_put_put htarget _ _, ?_⟩⟩
        · refine hplace.read_put_put htarget ?_ _ _
          rintro rfl
          exact hdistinct path rfl (htarget.place_eq.trans hplace.place_eq.symm)
        · rintro _ ⟨⟩
          have hlater := hplace.put (Png.write picture) htarget
          exact ⟨bytes, hlater.read_put bytes, Panel.ink_of_pages tones hpages⟩

end

/-- The track of a gauge is ink in the pages but for what is blank of it. -/
theorem files_after_run_half_used :
    let payload := Bytes.ofString ("\x7b\"layout\":[\x7b\"type\":\"progressbar\"," ++
      "\"origin\":[0,0],\"size\":[4,3],\"value\":\"l\"\x7d]," ++
      "\"values\":\x7b\"l\":0.5\x7d\x7d")
    let files := desk payload
    let settings : Settings := { width := 64, height := 8, fontPath := "f" }
    let last := (plan settings "d" "o" (some "p")).run files
    CommandLine.read ["--font", "f", "--width", "64", "--height", "8", "render", "-i", "d",
        "-o", "o", "--packed", "p"] = .render settings "d" "o" (some "p") ∧
      files.Writable "o" ∧ files.Writable "p" ∧ last.1 = .ok () ∧
      ∃ pages, last.2.read "p" = .ok pages ∧ pages.length = 64 ∧
        (Panel.ofPages 64 8 pages).isLit (1, 1) = true ∧
        (Panel.ofPages 64 8 pages).isLit (2, 1) = false := by
  intro payload files settings last
  have command : CommandLine.read ["--font", "f", "--width", "64", "--height", "8", "render",
      "-i", "d", "-o", "o", "--packed", "p"] = .render settings "d" "o" (some "p") := rfl
  have output_holds : files.Holds "o" ["o"] := holds_desk payload (by decide)
  have packed_holds : files.Holds "p" ["p"] := holds_desk payload (by decide)
  let d : Document := ⟨[.gauge ⟨⟨0, 0⟩, ⟨4, 3⟩, "l"⟩], [("l", .number (.ofDecimal 5 1))]⟩
  obtain ⟨picture, hdrawn, hsize, hink, hpaper⟩ :
      ∃ picture, drawn files settings "d" = .ok picture ∧
        picture.width * picture.height / 8 = 64 ∧ picture.pixel? (1, 1) = some .ink ∧
        picture.pixel? (2, 1) ≠ some .ink := by
    have hdecode : Document.read payload = .ok d := toOption_eq_some_iff.1 (by decide +kernel)
    refine ⟨(d.marks ⟨.inkless, 8⟩).foldl Mark.draw (Picture.blank 64 8),
      drawn_desk rfl hdecode (by decide +kernel) fun style => ?_,
      by decide +kernel, by decide +kernel, by decide +kernel⟩
    have hmarks : d.marks style = d.marks ⟨.inkless, 8⟩ :=
      congrArg (· ++ []) (d.marksOf_gauge style ⟨.inkless, 8⟩ _)
    rw [d.paint_of_sound style _ rfl, hmarks]
  obtain ⟨hwidth, hheight⟩ := (twoTone_of_drawn hdrawn).2
  obtain ⟨hfails, hsucceeds⟩ := files_after_run command files output_holds.writable
    (fun _ h => Option.some.inj h ▸ packed_holds.writable)
  have hok : last.1 = .ok () := by
    cases hresult : last.1 with
    | ok => rfl
    | error text =>
      rcases hfails text hresult with ⟨hnone, -⟩ | ⟨_, _, _, _, _, hsplits, _⟩
      · rw [hdrawn] at hnone
        cases hnone
      · exact (hsplits (by decide)).elim
  obtain ⟨written, hsame, -, -, -, hpages⟩ := hsucceeds hok
  obtain rfl : picture = written := Except.ok.inj (hdrawn.symm.trans hsame)
  obtain ⟨pages, hread, hlength, hlit⟩ := hpages "p" rfl
  rw [hwidth, hheight] at hlit
  exact ⟨command, output_holds.writable, packed_holds.writable, hok, pages, hread,
    hlength.trans hsize, (hlit 1 1).2 hink,
    Bool.eq_false_iff.2 fun h => hpaper ((hlit 2 1).1 h)⟩

/-- When the panel does not split into pages, the run fails, and the picture is there. -/
theorem picture_left_by_failed_run :
    let payload := Bytes.ofString "\x7b\"layout\":[]\x7d"
    let files := desk payload
    let settings : Settings := { width := 40, height := 16, fontPath := "f" }
    let last := (plan settings "d" "o" (some "p")).run files
    let reason := "panel of 40x16 does not split into 64-column chips of 8-row pages"
    CommandLine.read ["--font", "f", "--width", "40", "--height", "16", "render",
        "-i", "d", "-o", "o", "--packed", "p"] =
          .render settings "d" "o" (some "p") ∧
      files.Writable "o" ∧ files.Writable "p" ∧
      last.1 = .error ("Invalid configuration: " ++ reason) ∧
      files.read "o" = .error .notFound ∧
      last.2.read "o" = .ok (Png.write (.blank 40 16)) := by
  intro payload files settings last reason
  have output_holds : files.Holds "o" ["o"] := holds_desk payload (by decide)
  have packed_holds : files.Holds "p" ["p"] := holds_desk payload (by decide)
  have hdrawn : drawn files settings "d" = .ok (.blank 40 16) := by
    have hdecode : Document.read payload = .ok {} := toOption_eq_some_iff.1 (by decide +kernel)
    exact drawn_desk rfl hdecode (by decide +kernel) fun style =>
      Document.paint_of_sound {} style _ rfl
  have hread : Png.read (Png.write (.blank 40 16)) = .ok (.blank 40 16) :=
    Png.read_write _ (by decide) (by decide)
  have hpages : (Panel.ofPicture (.blank 40 16)).pages = .error (.settings reason) := by
    rw [Panel.pages, if_neg (by decide +kernel)]
    refine congrArg (fun text => Except.error (Fault.settings text)) ?_
    decide +kernel
  have hlast : last = (.error ("Invalid configuration: " ++ reason),
      files.put ["o"] (Png.write (.blank 40 16))) := by
    have hrun := run_plan settings "d" "o" (some "p") files
    rw [hdrawn] at hrun
    replace hrun := hrun.trans (run_deliver_some output_holds packed_holds hread)
    rw [hpages] at hrun
    exact hrun
  rw [hlast]
  exact ⟨rfl, output_holds.writable, packed_holds.writable, rfl, output_holds.read_eq,
    output_holds.read_put _⟩

end OneShot

end StatusPanel
