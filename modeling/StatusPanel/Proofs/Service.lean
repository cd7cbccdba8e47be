import StatusPanel.Proofs.Painting
import StatusPanel.Proofs.Runs

/-!
# Service

What a session with a font of its own makes of its input, when neither the input nor the output
fails: the requests are answered one after the other, each as if it were the only one, up to the
first that is refused. Main statements: what becomes of one request (`run_request`), of the end of
the input (`run_end`), and of the input as a whole (`serve_requests`).
-/

namespace StatusPanel

/-! ## Requests by themselves -/

/-- A payload that is no document concerns one request alone. -/
theorem Document.isRequestFailure_of_read {payload : Bytes} {fault : Fault}
    (h : Document.read payload = .error fault) : fault.isRequestFailure = true := by
  unfold Document.read at h
  cases hd : Document.read? payload with
  | error e =>
    rw [hd] at h
    cases h
    rfl
  | ok d =>
    rw [hd] at h
    cases h

namespace Renderer

/-- The picture of a request that is the only one. -/
def picture (r : Renderer) (payload : Bytes) : Except Fault Picture :=
  (r.renderPayload {} payload).1

/-- Does a request have a picture? -/
def renders (r : Renderer) (payload : Bytes) : Bool :=
  (r.picture payload).isOk

/-- What a request is answered with: the file of its picture, or nothing. -/
def response (r : Renderer) (payload : Bytes) : Bytes :=
  match r.picture payload with
  | .ok picture => Png.write picture
  | .error _ => []

/-- The fault that a request ends the session with, if it is not answered: it has no picture, or
the length of the file cannot be written. -/
def refusal? (r : Renderer) (payload : Bytes) : Option Fault :=
  match r.picture payload with
  | .ok picture =>
    if (Png.write picture).length ≤ Frame.longest then none
    else some (.frameTooLarge (Png.write picture).length Frame.longest)
  | .error fault =>
    if fault.isRequestFailure && r.settings.policy = .emptyFrame then none else some fault

/-- The requests before the first one that is refused. -/
def served (r : Renderer) (payloads : List Bytes) : List Bytes :=
  payloads.takeWhile fun payload => (r.refusal? payload).isNone

variable {r : Renderer} {font : Font}

/-- Settings that make sense give a renderer with the font. -/
theorem ofFont_of_valid {settings : Settings} (h : settings.validate = .ok ()) (font : Font) :
    ∃ r, ofFont settings font = .ok r ∧ r.settings = settings ∧ r.origin = .memory font := by
  unfold ofFont
  split
  · next hinvalid =>
    rw [h] at hinvalid
    cases hinvalid
  · exact ⟨_, rfl, rfl, rfl⟩

/-- A font in memory is at hand for every request: files do not matter, and the renderer stays. -/
theorem renderPayload_eq_picture (hr : r.origin = .memory font) (files : Files)
    (payload : Bytes) : r.renderPayload files payload = (r.picture payload, r) := by
  unfold picture renderPayload
  cases Document.read payload with
  | error fault => rfl
  | ok d => simp only [render, fontNeed, hr]

/-- What keeps a document from being drawn concerns one request alone. -/
theorem isRequestFailure_of_draw {d : Document} {fault : Fault}
    (h : r.draw font d = .error fault) : fault.isRequestFailure = true := by
  unfold draw at h
  cases hf : d.widgets.findSome? d.fault? with
  | none =>
    rw [d.paint_of_sound _ _ hf] at h
    cases h
  | some fault' =>
    rw [d.paint_of_fault _ _ hf] at h
    cases h
    obtain ⟨w, _, hw⟩ := List.exists_of_findSome?_eq_some hf
    exact Document.isRequestFailure_of_fault? hw

/-- What keeps a request from having a picture concerns that request alone. -/
theorem isRequestFailure_of_picture (hr : r.origin = .memory font) {payload : Bytes}
    {fault : Fault} (h : r.picture payload = .error fault) : fault.isRequestFailure = true := by
  unfold picture renderPayload at h
  cases hd : Document.read payload with
  | error fault' =>
    rw [hd] at h
    cases h
    exact Document.isRequestFailure_of_read hd
  | ok d =>
    simp only [hd, render, fontNeed, hr] at h
    exact isRequestFailure_of_draw h

theorem response_eq_nil_iff (hr : r.origin = .memory font) {payload : Bytes} :
    r.response payload = [] ↔
      ∃ fault, r.picture payload = .error fault ∧ fault.isRequestFailure = true := by
  unfold response
  cases h : r.picture payload with
  | ok picture =>
    constructor
    · intro hnil
      simp [Png.write, Png.signature] at hnil
    · rintro ⟨fault, hfault, _⟩
      cases hfault
  | error fault =>
    constructor
    · intro _
      exact ⟨fault, rfl, isRequestFailure_of_picture hr h⟩
    · intro _
      rfl

/-- Which requests are served, if every response is short enough to be sent: all of them, or those
before the first that has no picture. -/
theorem served_eq (hr : r.origin = .memory font) (payloads : List Bytes)
    (h : ∀ payload ∈ payloads, (r.response payload).length ≤ Frame.longest) :
    r.served payloads =
      match r.settings.policy with
      | .emptyFrame => payloads
      | .terminate => payloads.takeWhile r.renders := by
  have hrefusal : ∀ payload ∈ payloads, (r.refusal? payload).isNone =
      (r.settings.policy = .emptyFrame || r.renders payload : Bool) := by
    intro payload hmem
    have hle := h payload hmem
    unfold response at hle
    unfold refusal? renders
    cases hp : r.picture payload with
    | ok picture =>
      rw [hp] at hle
      simp [hle, Except.isOk, Except.toBool]
    | error fault =>
      simp only [isRequestFailure_of_picture hr hp, Bool.true_and]
      cases r.settings.policy <;> rfl
  unfold served
  induction payloads with
  | nil => cases r.settings.policy <;> rfl
  | cons payload rest ih =>
    have ih := ih (fun p hp => h p (List.mem_cons_of_mem _ hp))
      (fun p hp => hrefusal p (List.mem_cons_of_mem _ hp))
    rw [List.takeWhile_cons, hrefusal payload List.mem_cons_self, ih]
    cases r.settings.policy with
    | emptyFrame => rfl
    | terminate =>
      dsimp only
      rw [List.takeWhile_cons]
      rfl

end Renderer

/-! ## One request -/

namespace Session

/-- A request is refused, or it is answered with its response, and then it counts as skipped if it
has no picture. -/
theorem conclude_cases (s : Session) (payload : Bytes) :
    let r := s.renderer
    let t := s.conclude (r.picture payload)
    (∃ fault, r.refusal? payload = some fault ∧
        t.phase = .closed (.error fault) ∧ t.summary = s.summary) ∨
      ∃ parts, r.refusal? payload = none ∧
        parts.flatten = Frame.encode (r.response payload) ∧ (∀ part ∈ parts, part ≠ []) ∧
        t.phase = .responding parts ∧ t.renderer = r ∧
        t.summary =
          ⟨s.summary.frames, s.summary.skipped + if r.renders payload then 0 else 1⟩ := by
  dsimp only
  unfold Renderer.refusal? Renderer.response Renderer.renders
  cases s.renderer.picture payload with
  | ok picture =>
    dsimp only [conclude]
    rcases s.respond_cases (Png.write picture) with
      ⟨hle, parts, hparts, hflat, hne⟩ | ⟨hlt, hrefused⟩
    · rw [hparts, if_pos hle]
      exact .inr ⟨parts, rfl, hflat, hne, rfl, rfl, rfl⟩
    · rw [hrefused, if_neg (Nat.not_le.2 hlt)]
      exact .inl ⟨_, rfl, rfl, rfl⟩
  | error fault =>
    -- the condition of a refusal is the one by which the session decides
    change (∃ fault', (if s.skips fault then none else some fault) = some fault' ∧ _) ∨
      ∃ parts, (if s.skips fault then none else some fault) = none ∧ _
    dsimp only [conclude]
    cases s.skips fault with
    | true =>
      rw [if_pos rfl, if_pos rfl]
      rcases Session.respond_cases _ [] with ⟨_, parts, hparts, hflat, hne⟩ | ⟨hlt, _⟩
      · rw [hparts]
        exact .inr ⟨parts, rfl, hflat, hne, rfl, rfl, rfl⟩
      · cases hlt
    | false => exact .inl ⟨fault, rfl, rfl, rfl⟩

end Session

namespace Conversation

/-- The conversation is about to read a request, its renderer has the font, and neither its input
nor its output will fail. -/
structure Ready (c : Conversation) (r : Renderer) (font : Font) : Prop where
  phase : c.session.phase = .receiving .start
  renderer : c.session.renderer = r
  origin : r.origin = .memory font
  plain : c.source.Plain
  willing : c.sink.Willing

/-- A conversation that is rendering goes on when the picture is there. -/
theorem run_rendering (c : Conversation) {font : Font} {payload : Bytes}
    (h : c.session.phase = .rendering payload)
    (hr : c.session.renderer.origin = .memory font) :
    c.run = { c with
      session := c.session.conclude (c.session.renderer.picture payload) }.run := by
  rw [← run_step, step_rendering h]
  unfold Session.rendered Renderer.picture Renderer.renderPayload
  cases Document.read payload with
  | error fault => rfl
  | ok d => simp only [Renderer.render, Renderer.fontNeed, hr]

variable {c : Conversation} {r : Renderer} {font : Font}

/-- A ready conversation has read its first frame, or why there is none. -/
theorem Ready.run_eq (h : c.Ready r font) :
    ∃ source : Source, source.Plain ∧
      source.remaining = (Frame.parse r.settings.maxFrame c.source.remaining).2 ∧
      c.run = { c with
        session := c.session.received (Frame.parse r.settings.maxFrame c.source.remaining).1
        source }.run := by
  obtain ⟨hframe, hrest, hplain⟩ := Frame.readOn_plain r.settings.maxFrame .start h.plain
  refine ⟨_, hplain, hrest, ?_⟩
  have hrun := run_receiving c h.phase
  dsimp only at hrun
  rw [h.renderer, hframe] at hrun
  exact hrun

/-- Where no whole frame is left, the session ends without another answer. -/
theorem Ready.run_end (h : c.Ready r font)
    (hend : ∀ payload, (Frame.parse r.settings.maxFrame c.source.remaining).1 ≠
      .ok (some payload)) :
    c.run.session.phase =
        .closed ((Frame.parse r.settings.maxFrame c.source.remaining).1.map fun _ => ()) ∧
      c.run.session.summary = c.session.summary ∧ c.run.sink = c.sink := by
  obtain ⟨source, _, _, hrun⟩ := h.run_eq
  rw [hrun]
  rcases hframe : (Frame.parse r.settings.maxFrame c.source.remaining).1 with fault | _ | payload
  · rw [run_of_phase (Session.phase_close ..)]
    exact ⟨rfl, Session.summary_close .., rfl⟩
  · rw [run_of_phase (Session.phase_close ..)]
    exact ⟨rfl, Session.summary_close .., rfl⟩
  · exact absurd hframe (hend payload)

/-- The next request is refused, and then the session ends, or it is answered, and then the session
is ready for the rest. -/
theorem Ready.run_request (h : c.Ready r font) {payload rest : Bytes}
    (hparse : Frame.parse r.settings.maxFrame c.source.remaining = (.ok (some payload), rest)) :
    (∃ fault, r.refusal? payload = some fault ∧ c.run.session.phase = .closed (.error fault) ∧
        c.run.session.summary = c.session.summary ∧ c.run.sink = c.sink) ∨
      ∃ next : Conversation, r.refusal? payload = none ∧ c.run = next.run ∧
        next.Ready r font ∧ next.source.remaining = rest ∧
        next.sink.taken.toList = c.sink.taken.toList ++ Frame.encode (r.response payload) ∧
        next.session.summary = ⟨c.session.summary.frames + 1,
          c.session.summary.skipped + if r.renders payload then 0 else 1⟩ := by
  obtain ⟨source, hplain, hrest, hrun⟩ := h.run_eq
  rw [hparse] at hrest hrun
  have hphase : (c.session.received (.ok (some payload))).phase = .rendering payload := rfl
  have hrenderer : (c.session.received (.ok (some payload))).renderer = r := h.renderer
  have hsummary : (c.session.received (.ok (some payload))).summary = c.session.summary := rfl
  dsimp only at hrun
  -- from here on the session counts only by its phase, its renderer and its summary
  generalize c.session.received (.ok (some payload)) = s at hrun hphase hrenderer hsummary
  subst hrenderer
  rw [hrun, run_rendering { c with session := s, source } hphase h.origin]
  dsimp only
  rcases s.conclude_cases payload with
    ⟨fault, hrefusal, hclosed, hkept⟩ | ⟨parts, hrefusal, hflat, hne, hresponding, hr, hcounted⟩
  · rw [run_of_phase hclosed]
    exact .inl ⟨fault, hrefusal, hclosed, hkept.trans hsummary, rfl⟩
  · rw [run_responding { c with session := s.conclude (s.renderer.picture payload), source }
      hresponding]
    dsimp only
    rw [Frame.writeOn_willing parts h.willing hne, hflat]
    refine .inr ⟨_, hrefusal, rfl, ⟨rfl, hr, h.origin, hplain, h.willing.having _ _⟩, hrest, ?_, ?_⟩
    · exact Array.toList_appendList
    · rw [← hsummary]
      exact congrArg (fun t : Summary => { t with frames := t.frames + 1 }) hcounted

/-! ## All requests -/

/-- The requests are answered up to the first that is refused. Its fault ends the session; if none
is refused, the input behind them does. -/
theorem Ready.run_requests (h : c.Ready r font) :
    let payloads := (Frame.split r.settings.maxFrame c.source.remaining).1
    let tail := (Frame.split r.settings.maxFrame c.source.remaining).2
    c.run.sink.taken.toList = c.sink.taken.toList ++
        (r.served payloads).flatMap (fun payload => Frame.encode (r.response payload)) ∧
      c.run.session.summary = ⟨c.session.summary.frames + (r.served payloads).length,
        c.session.summary.skipped + (r.served payloads).countP fun payload => !r.renders payload⟩ ∧
      c.run.session.phase = .closed (match payloads.findSome? r.refusal? with
        | some fault => .error fault
        | none => (Frame.parse r.settings.maxFrame tail).1.map fun _ => ()) := by
  dsimp only
  induction hb : c.source.remaining using @Frame.split_induction r.settings.maxFrame
      generalizing c with
  | done bytes hend =>
    subst hb
    obtain ⟨hphase, hsummary, hsink⟩ := h.run_end hend
    rw [Frame.split_of_not_parse hend, hphase, hsummary, hsink]
    simp [Renderer.served]
  | next bytes payload rest hparse ih =>
    subst hb
    rw [Frame.split_of_parse hparse]
    dsimp only
    rcases h.run_request hparse with
      ⟨fault, hrefusal, hphase, hsummary, hsink⟩ |
      ⟨next, hrefusal, hrun, hready, hrest, htaken, hcount⟩
    · rw [hphase, hsummary, hsink]
      simp [Renderer.served, hrefusal]
    · obtain ⟨hall, hsummary, hphase⟩ := ih hready hrest
      have hserved : r.served (payload :: (Frame.split r.settings.maxFrame rest).1) =
          payload :: r.served (Frame.split r.settings.maxFrame rest).1 := by
        simp [Renderer.served, hrefusal]
      rw [hrun, hserved]
      refine ⟨?_, ?_, ?_⟩
      · rw [hall, htaken, List.flatMap_cons, List.append_assoc]
      · rw [hsummary, hcount, List.length_cons, List.countP_cons]
        cases hrenders : r.renders payload <;> simp <;> omega
      · rw [hphase, List.findSome?_cons, hrefusal]

/-- **A service is its requests answered one by one.** Its input is the whole frames that it begins
with, as many as there are of the length allowed, and a tail. Each request that is served is
answered by the frame of its response, which is what a new renderer makes of it alone. The first
request that is refused ends the service with its fault; if there is none, the tail decides. Where
every response can be sent, one that is refused has no picture, and the policy is to terminate. -/
theorem serve_requests (settings : Settings) (valid : settings.validate = .ok ()) (font : Font)
    (source : Source) (plain : source.Plain) (sink : Sink) (willing : sink.Willing)
    (files : Files) :
    let payloads := (Frame.split settings.maxFrame source.remaining).1
    let tail := (Frame.split settings.maxFrame source.remaining).2
    (source.remaining = payloads.flatMap Frame.encode ++ tail ∧
      (∀ payload ∈ payloads,
        payload.length ≤ settings.maxFrame ∧ payload.length ≤ Frame.longest) ∧
      ∀ payload rest, payload.length ≤ settings.maxFrame → payload.length ≤ Frame.longest →
        tail ≠ Frame.encode payload ++ rest) ∧
    ∃ r, Renderer.ofFont settings font = .ok r ∧
      let last := Conversation.serve ⟨{ renderer := r }, source, sink, files⟩
      last.2.sink.taken.toList = sink.taken.toList ++
          (r.served payloads).flatMap (fun payload => Frame.encode (r.response payload)) ∧
        last.2.session.summary =
          ⟨(r.served payloads).length,
            (r.served payloads).countP fun payload => !r.renders payload⟩ ∧
        last.2.session.phase.stage = .closed ∧
        last.1 = (match payloads.findSome? r.refusal? with
          | some fault => .error fault
          | none =>
            (Frame.parse settings.maxFrame tail).1.map fun _ => last.2.session.summary) ∧
        (∀ payload, r.renderPayload files payload = (r.picture payload, r)) ∧
        (∀ payload, r.response payload = [] ↔
          ∃ fault, r.picture payload = .error fault ∧ fault.isRequestFailure = true) ∧
        ((∀ payload ∈ payloads, (r.response payload).length ≤ Frame.longest) →
          r.served payloads =
            match settings.policy with
            | .emptyFrame => payloads
            | .terminate => payloads.takeWhile r.renders) := by
  have hspec := Frame.split_spec settings.maxFrame source.remaining
  obtain ⟨r, hr, hsettings, horigin⟩ := Renderer.ofFont_of_valid valid font
  have hready : Ready ⟨Session.awaitRequest { renderer := r }, source, sink, files⟩ r font :=
    ⟨rfl, rfl, horigin, plain, willing⟩
  have hrun := hready.run_requests
  rw [← run_idle ⟨{ renderer := r }, source, sink, files⟩ rfl, hsettings] at hrun
  dsimp only at hrun ⊢
  generalize Frame.split settings.maxFrame source.remaining = split at hspec hrun ⊢
  obtain ⟨payloads, tail⟩ := split
  obtain ⟨hbytes, hwhole, htail⟩ := hspec
  obtain ⟨htaken, hsummary, hphase⟩ := hrun
  refine ⟨⟨hbytes, hwhole, ?_⟩, r, hr, ?_⟩
  · intro payload rest hle hlong heq
    refine htail payload ?_
    rw [heq, Frame.parse_encode hle hlong]
  · rw [serve_of_phase rfl hphase]
    refine ⟨htaken, ?_, ?_, ?_, ?_, ?_, ?_⟩
    · simpa [Session.awaitRequest] using hsummary
    · exact congrArg Phase.stage hphase
    · dsimp only
      cases payloads.findSome? r.refusal? with
      | some fault => rfl
      | none =>
        cases (Frame.parse settings.maxFrame tail).1 with
        | error fault => rfl
        | ok frame => rfl
    · intro payload
      exact Renderer.renderPayload_eq_picture horigin files payload
    · intro payload
      exact Renderer.response_eq_nil_iff horigin
    · intro hfits
      rw [r.served_eq horigin _ hfits, hsettings]

/-- An empty document whose frame comes in two pieces is served; what follows is no document. -/
theorem serve_requests_two_pieces :
    let empty : Bytes := [123, 34, 108, 97, 121, 111, 117, 116, 34, 58, 91, 93, 125]
    let source : Source :=
      ⟨[.bytes [13, 0], .interrupted, .bytes ([0, 0] ++ empty ++ [1, 0, 0, 0, 63])]⟩
    ∃ r, Renderer.ofFont { width := 1, height := 1 } .inkless = .ok r ∧
      let last := Conversation.serve ⟨{ renderer := r }, source, .unlimited, {}⟩
      last.2.sink.taken.toList = Frame.encode (Png.write (.blank 1 1)) ∧
        last.2.session.summary = ⟨1, 0⟩ ∧
        last.1 = .error (.document "expected value") := by
  intro empty source
  have plain : source.Plain := by
    intro d hd
    simp only [source, List.mem_cons, List.not_mem_nil, or_false] at hd
    rcases hd with rfl | rfl | rfl
    · exact .inr ⟨_, rfl⟩
    · exact .inl rfl
    · exact .inr ⟨_, rfl⟩
  have hsplit : Frame.split 16777216 source.remaining = ([empty, [63]], []) := by
    have hremaining : source.remaining = Frame.encode empty ++ (Frame.encode [63] ++ []) := by
      decide +kernel
    rw [hremaining, Frame.split_of_parse (Frame.parse_encode (by decide) (by decide) _),
      Frame.split_of_parse (Frame.parse_encode (by decide) (by decide) _),
      Frame.split_of_not_parse (fun payload h => by cases h)]
  obtain ⟨_, r, hr, htaken, hsummary, _, hresult, _⟩ :=
    serve_requests { width := 1, height := 1 } rfl .inkless source plain .unlimited
      Sink.willing_unlimited {}
  refine ⟨r, hr, ?_⟩
  have hread : ∃ d, Document.read empty = .ok d ∧ d.widgets = [] := by
    have hwidgets : (Document.read empty).toOption.map (·.widgets) = some [] := by decide +kernel
    cases hd : Document.read empty with
    | error fault =>
      rw [hd] at hwidgets
      cases hwidgets
    | ok d =>
      rw [hd] at hwidgets
      exact ⟨d, rfl, Option.some.inj hwidgets⟩
  have hpicture : r.picture empty = .ok (.blank 1 1) := by
    obtain ⟨⟨widgets, values⟩, hd, hwidgets⟩ := hread
    cases hwidgets
    cases hr
    unfold Renderer.picture Renderer.renderPayload
    rw [hd]
    rfl
  have hrefused : r.refusal? [63] = some (.document "expected value") := by
    cases hr
    rfl
  have hanswered : r.refusal? empty = none := by
    have hle : (Png.write (.blank 1 1)).length ≤ Frame.longest := by
      decide +kernel
    unfold Renderer.refusal?
    rw [hpicture]
    exact if_pos hle
  have hserved : r.served [empty, [63]] = [empty] := by
    simp [Renderer.served, hanswered, hrefused]
  have hrenders : r.renders empty = true := by
    unfold Renderer.renders
    rw [hpicture]
    rfl
  have hresponse : r.response empty = Png.write (.blank 1 1) := by
    unfold Renderer.response
    rw [hpicture]
  simp only [hsplit, hserved] at htaken hsummary
  simp only [hsplit, List.findSome?_cons, hanswered, hrefused] at hresult
  refine ⟨?_, ?_, hresult⟩
  · rw [htaken, List.flatMap_singleton, hresponse]
    exact List.nil_append _
  · simp [hsummary, hrenders]

end Conversation

end StatusPanel
