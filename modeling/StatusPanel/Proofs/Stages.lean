import StatusPanel.Proofs.OutputFailure

/-!
# The stages of a session

A session passes through the stages of one request after the other, and its counter says how many
times it has been around (`OnTrack`). There are five ways in which the next step can close it
(`Closing`), each from a stage of its own, and these decide what the run gives and how the sequence
of stages ends (`serve_stages`). A session that has closed does nothing more.
-/

namespace StatusPanel

/-- The stages of a session that awaits a request and has answered so many. -/
def Stage.rounds (count : Nat) : List Stage :=
  .awaitingRequest :: (List.replicate count [.rendering, .responding, .awaitingRequest]).flatten

theorem Stage.rounds_succ (count : Nat) :
    rounds (count + 1) = rounds count ++ [.rendering, .responding, .awaitingRequest] := by
  simp [rounds, List.replicate_succ', List.flatten_append]

theorem Stage.getLast?_rounds (count : Nat) :
    (rounds count).getLast? = some .awaitingRequest := by
  cases count with
  | zero => rfl
  | succ count => simp [rounds_succ]

theorem Stage.count_closed_rounds (count : Nat) : (rounds count).count .closed = 0 := by
  induction count with
  | zero => rfl
  | succ count ih =>
    rw [rounds_succ, List.count_append, ih]
    rfl

/-- Only the end of the input before a frame is complete without a fault and without a payload. -/
theorem Frame.Progress.eq_start_of_advance {limit : Nat} {p : Progress} {d : Delivery}
    (h : p.advance limit d = .complete (.ok none)) : p = .start ∧ d = .ended := by
  cases d with
  | interrupted => cases h
  | failed text => cases h
  | ended =>
    match p with
    | .inLength [] _ => exact ⟨rfl, rfl⟩
    | .inLength (_ :: _) _ => cases h
    | .inPayload .. => cases h
  | bytes piece =>
    cases p with
    | inLength taken short =>
      simp only [advance, beginPayload] at h
      split at h
      · cases h
      · split at h
        · cases h
        · split at h <;> cases h
    | inPayload length taken short =>
      simp only [advance] at h
      split at h <;> cases h

namespace Session

/-- The stages that an open session has entered are those of the requests that it has answered, and
of the one at hand. -/
def OnTrack (s : Session) : Prop :=
  match s.phase with
  | .idle => s.stages = [] ∧ s.summary.frames = 0
  | .receiving _ => s.stages = Stage.rounds s.summary.frames
  | .rendering _ => s.stages = Stage.rounds s.summary.frames ++ [.rendering]
  | .responding _ => s.stages = Stage.rounds s.summary.frames ++ [.rendering, .responding]
  | .closed _ => False

/-! ## Conclusions -/

/-- The request is responded to. -/
def Responds (s t : Session) : Prop :=
  (∃ parts, t.phase = .responding parts) ∧ t.stages = s.stages ++ [.responding] ∧
    t.summary.frames = s.summary.frames

theorem respond_responds (s : Session) {response : Bytes} (h : response.length ≤ Frame.longest) :
    s.Responds (s.respond response) := by
  rcases s.respond_cases response with ⟨_, parts, hparts, _, _⟩ | ⟨hlt, _⟩
  · rw [hparts]
    exact ⟨⟨parts, rfl⟩, s.stages_enter _, rfl⟩
  · omega

theorem conclude_skipped (s : Session) {fault : Fault} (h : s.skips fault = true) :
    s.Responds (s.conclude (.error fault)) := by
  simp only [conclude, h, if_true]
  obtain ⟨hphase, hstages, hframes⟩ := respond_responds
    { s.tell (.skipped s.summary.frames fault) with
      summary := ⟨s.summary.frames, s.summary.skipped + 1⟩ }
    (show ([] : Bytes).length ≤ Frame.longest from Nat.zero_le _)
  refine ⟨hphase, hstages.trans ?_, hframes⟩
  show (s.tell (.skipped s.summary.frames fault)).stages ++ _ = _
  rw [stages_tell]
  exact congrArg (· ++ _) (List.append_nil _)

theorem conclude_refused (s : Session) {fault : Fault} (h : s.skips fault = false) :
    s.conclude (.error fault) = s.close (.error fault) := by
  simp [conclude, h]

theorem conclude_long (s : Session) {p : Picture} (h : Frame.longest < (Png.write p).length) :
    s.conclude (.ok p) = (s.enter (.responding [])).close
      (.error (.frameTooLarge (Png.write p).length Frame.longest)) := by
  rcases s.respond_cases (Png.write p) with ⟨hle, _⟩ | ⟨_, hrefused⟩
  · omega
  · exact hrefused

/-- Which faults are skipped is a matter of the settings. -/
theorem skips_of_settings {s t : Session} (h : t.renderer.settings = s.renderer.settings)
    (fault : Fault) : t.skips fault = s.skips fault := by
  unfold skips
  rw [h]

end Session

namespace Conversation

variable {start c : Conversation}

/-! ## Closing -/

/-- Why the next step closes the session, with what outcome, and the stages that it has then entered
since it awaited the request at hand. -/
inductive Closing (c : Conversation) : Except Fault Unit → List Stage → Prop
  /-- The input is at its end, and nothing of another frame was there. -/
  | ended : c.session.phase = .receiving .start →
      (c.source.read Frame.Progress.start.missing).1 = .ended → Closing c (.ok ()) [.closed]
  /-- Reading fails, or what was read is no frame. -/
  | unread {p : Frame.Progress} {fault : Fault} : c.session.phase = .receiving p →
      p.advance c.session.renderer.settings.maxFrame (c.source.read p.missing).1 =
        .complete (.error fault) → Closing c (.error fault) [.closed]
  /-- The request has no picture, and is not skipped. -/
  | unrendered {payload : Bytes} {fault : Fault} : c.session.phase = .rendering payload →
      (c.session.renderer.renderPayload c.files payload).1 = .error fault →
      c.session.skips fault = false → Closing c (.error fault) [.rendering, .closed]
  /-- The picture is too long for a frame. -/
  | unsendable {payload : Bytes} {picture : Picture} : c.session.phase = .rendering payload →
      (c.session.renderer.renderPayload c.files payload).1 = .ok picture →
      Frame.longest < (Png.write picture).length →
      Closing c (.error (.frameTooLarge (Png.write picture).length Frame.longest))
        [.rendering, .responding, .closed]
  /-- The output does not take the response, or is not flushed. -/
  | unwritten {text : String} : c.outputFault? = some text →
      Closing c (.error (.stream text)) [.rendering, .responding, .closed]

/-- Each reason closes the session as it says. -/
theorem Closing.step {outcome : Except Fault Unit} {ending : List Stage}
    (h : c.Closing outcome ending) (htrack : c.session.OnTrack) :
    c.step.session.phase = .closed outcome ∧
      c.step.session.stages = Stage.rounds c.step.session.summary.frames ++ ending := by
  unfold Session.OnTrack at htrack
  cases h with
  | ended hp hd =>
    rw [hp] at htrack
    rw [step_receiving hp, hd]
    show (c.session.close _).phase = _ ∧ (c.session.close _).stages = _
    rw [Session.phase_close, Session.stages_close, htrack]
    exact ⟨rfl, rfl⟩
  | @unread p fault hp ha =>
    rw [hp] at htrack
    rw [step_receiving hp]
    simp only [Session.deliver, ha, Session.received]
    rw [Session.phase_close, Session.stages_close, Session.summary_close, htrack]
    exact ⟨rfl, rfl⟩
  | @unrendered payload fault hp hpicture hskips =>
    rw [hp] at htrack
    obtain ⟨t, hconclude, ht, _, hsummary, hstages⟩ :=
      c.session.rendered_eq_conclude c.files payload
    have hsettings : t.renderer.settings = c.session.renderer.settings := by
      rw [ht, Renderer.settings_renderPayload]
    rw [hpicture, t.conclude_refused ((Session.skips_of_settings hsettings fault).trans hskips)]
      at hconclude
    rw [step_rendering hp, hconclude]
    dsimp only
    rw [Session.phase_close, Session.stages_close, Session.summary_close, hstages, hsummary,
      htrack, List.append_assoc]
    exact ⟨rfl, rfl⟩
  | @unsendable payload picture hp hpicture hlong =>
    rw [hp] at htrack
    obtain ⟨t, hconclude, _, _, hsummary, hstages⟩ :=
      c.session.rendered_eq_conclude c.files payload
    rw [hpicture, t.conclude_long hlong] at hconclude
    rw [step_rendering hp, hconclude]
    dsimp only
    rw [Session.phase_close, Session.stages_close, Session.summary_close, Session.stages_enter,
      Session.summary_enter, hstages, hsummary, htrack, List.append_assoc, List.append_assoc]
    exact ⟨rfl, rfl⟩
  | @unwritten text hf =>
    obtain ⟨rest, hp⟩ := phase_of_outputFault? hf
    rw [hp] at htrack
    rw [step_of_outputFault? hf]
    dsimp only
    rw [Session.phase_close, Session.stages_close, Session.summary_close, htrack,
      List.append_assoc]
    exact ⟨rfl, rfl⟩

theorem Closing.isClosed {outcome : Except Fault Unit} {ending : List Stage}
    (h : c.Closing outcome ending) : c.isClosed = false := by
  cases h with
  | ended hp => exact isClosed_eq_false_of_phase hp nofun
  | unread hp => exact isClosed_eq_false_of_phase hp nofun
  | unrendered hp => exact isClosed_eq_false_of_phase hp nofun
  | unsendable hp => exact isClosed_eq_false_of_phase hp nofun
  | unwritten hf =>
    obtain ⟨_, hp⟩ := phase_of_outputFault? hf
    exact isClosed_eq_false_of_phase hp nofun

theorem Closing.getLast?_ending {outcome : Except Fault Unit} {ending : List Stage}
    (h : c.Closing outcome ending) : ending.getLast? = some .closed := by
  cases h <;> rfl

theorem Closing.isClosed_step {outcome : Except Fault Unit} {ending : List Stage}
    (h : c.Closing outcome ending) (htrack : c.session.OnTrack) : c.step.isClosed = true := by
  simp [Conversation.isClosed, (h.step htrack).1, Phase.stage]

/-! ## From stage to stage -/

/-- **A step stays on track**, unless there is a reason to close. -/
theorem onTrack_step (h : c.session.OnTrack) :
    c.step.session.OnTrack ∨ ∃ outcome ending, c.Closing outcome ending := by
  unfold Session.OnTrack at h
  cases hp : c.session.phase with
  | idle =>
    rw [hp] at h
    rw [step_idle hp]
    left
    show c.session.awaitRequest.stages = _
    rw [Session.awaitRequest, Session.stages_enter, Session.summary_enter, h.1, h.2]
    rfl
  | receiving p =>
    rw [hp] at h
    cases ha : p.advance c.session.renderer.settings.maxFrame (c.source.read p.missing).1 with
    | more q =>
      rw [step_receiving hp]
      simp only [Session.deliver, ha]
      exact .inl h
    | complete frame =>
      rcases frame with fault | _ | payload
      · exact .inr ⟨_, _, .unread hp ha⟩
      · obtain ⟨rfl, hd⟩ := Frame.Progress.eq_start_of_advance ha
        exact .inr ⟨_, _, .ended hp hd⟩
      · rw [step_receiving hp]
        simp only [Session.deliver, ha, Session.received]
        left
        show (Session.enter _ _).stages = Stage.rounds c.session.summary.frames ++ _
        rw [Session.stages_enter, Session.stages_tell, h]
        exact congrArg (· ++ _) (List.append_nil _)
  | rendering payload =>
    rw [hp] at h
    obtain ⟨t, hconclude, ht, _, hsummary, hstages⟩ :=
      c.session.rendered_eq_conclude c.files payload
    have hskips (fault : Fault) : t.skips fault = c.session.skips fault :=
      Session.skips_of_settings (by rw [ht, Renderer.settings_renderPayload]) fault
    have responds (hr : t.Responds (c.session.rendered c.files payload)) :
        c.step.session.OnTrack := by
      obtain ⟨⟨parts, hparts⟩, hresponds, hframes⟩ := hr
      rw [step_rendering hp]
      simp only [Session.OnTrack, hparts, hresponds, hframes, hstages, hsummary, h]
      rw [List.append_assoc]
      rfl
    cases hpicture : (c.session.renderer.renderPayload c.files payload).1 with
    | ok picture =>
      rcases Nat.lt_or_ge Frame.longest (Png.write picture).length with hlong | hle
      · exact .inr ⟨_, _, .unsendable hp hpicture hlong⟩
      · left
        apply responds
        rw [hconclude, hpicture]
        exact t.respond_responds hle
    | error fault =>
      cases hs : c.session.skips fault with
      | false => exact .inr ⟨_, _, .unrendered hp hpicture hs⟩
      | true =>
        left
        apply responds
        rw [hconclude, hpicture]
        exact t.conclude_skipped ((hskips fault).trans hs)
  | responding rest =>
    rw [hp] at h
    cases hf : c.outputFault? with
    | some text => exact .inr ⟨_, _, .unwritten hf⟩
    | none =>
      left
      cases rest with
      | nil =>
        -- the round is complete
        rw [step_flush hp, flush_of_outputFault?_eq_none hp hf]
        show (Session.enter _ _).stages = Stage.rounds (c.session.summary.frames + 1)
        rw [Session.stages_enter, Stage.rounds_succ]
        show c.session.stages ++ _ = _
        rw [h, List.append_assoc]
        rfl
      | cons part rest =>
        obtain ⟨count, hwrite⟩ := write_of_outputFault?_eq_none hp hf
        rw [step_write_taken hp hwrite]
        exact h
  | closed outcome =>
    rw [hp] at h
    exact h.elim

theorem isClosed_of_onTrack (h : c.session.OnTrack) : c.isClosed = false := by
  unfold Session.OnTrack at h
  cases hp : c.session.phase with
  | closed outcome =>
    rw [hp] at h
    exact h.elim
  | _ => simp [isClosed, hp, Phase.stage]

/-- A session that was on track is so until it closes. -/
theorem Wanders.onTrack (h : start.Wanders c) (hs : start.session.OnTrack)
    (hopen : c.isClosed = false) : c.session.OnTrack := by
  induction h with
  | refl => exact hs
  | change files _ ih => exact ih hopen
  | @step d _ ih =>
    have hd : d.session.OnTrack := by
      apply ih
      cases hclosed : d.isClosed with
      | false => rfl
      | true => rw [← hclosed, ← hopen, step_closed hclosed]
    rcases onTrack_step hd with htrack | ⟨_, _, hclosing⟩
    · exact htrack
    · rw [hclosing.isClosed_step hd] at hopen
      cases hopen

/-! ## The run -/

/-- A run that begins on track has a last moment, with a reason to close. -/
theorem exists_closing (hs : start.session.OnTrack) :
    ∃ c outcome ending, start.Reaches c ∧ c.session.OnTrack ∧ c.Closing outcome ending ∧
      start.run = c.step := by
  induction start using run.induct with
  | case1 c h =>
    rw [isClosed_of_onTrack hs] at h
    cases h
  | case2 c _ _ ih =>
    rcases onTrack_step hs with htrack | ⟨outcome, ending, hclosing⟩
    · obtain ⟨d, outcome, ending, hd, hdtrack, hclosing, hrun⟩ := ih htrack
      exact ⟨d, outcome, ending, hd.of_step, hdtrack, hclosing, by rw [← run_step, hrun]⟩
    · refine ⟨c, outcome, ending, .refl, hs, hclosing, ?_⟩
      rw [← run_step, run_of_closed (hclosing.isClosed_step hs)]

/-- **A reason to close decides the service**, at whatever moment it arises. -/
theorem Reaches.serve_of_closing (h : start.Reaches c) (hs : start.session.OnTrack)
    {outcome : Except Fault Unit} {ending : List Stage} (hclosing : c.Closing outcome ending) :
    start.serve.1 = outcome.map (fun _ => start.serve.2.session.summary) ∧
      start.serve.2.session.phase = .closed outcome ∧
      start.serve.2.session.stages =
        Stage.rounds start.serve.2.session.summary.frames ++ ending := by
  obtain ⟨hphase, hstages⟩ := hclosing.step (h.wanders.onTrack hs hclosing.isClosed)
  rw [h.serve_of_step (isClosed_of_onTrack hs) hphase]
  exact ⟨rfl, hphase, hstages⟩

/-- A session that has closed is served without doing anything. -/
theorem serve_of_closed (h : c.isClosed = true) : c.serve = (.ok c.session.summary, c) := by
  unfold serve
  rw [if_pos h]

theorem repeat_serve_of_closed (h : c.isClosed = true) (count : Nat) :
    Nat.repeat (fun d => d.serve.2) count c = c := by
  induction count with
  | zero => rfl
  | succ count ih =>
    show (Nat.repeat (fun d => d.serve.2) count c).serve.2 = c
    rw [ih, serve_of_closed h]

/-- At each moment of a run the session is in the stage that it entered last. -/
theorem Reaches.getLast?_stages (h : start.Reaches c) (hs : start.session.OnTrack) :
    c.session.stages.getLast?.getD .awaitingRequest = c.session.phase.stage := by
  cases hclosed : c.isClosed with
  | false =>
    have htrack := h.wanders.onTrack hs hclosed
    unfold Session.OnTrack at htrack
    cases hp : c.session.phase with
    | idle =>
      rw [hp] at htrack
      rw [htrack.1]
      rfl
    | receiving p =>
      rw [hp] at htrack
      rw [htrack, Stage.getLast?_rounds]
      rfl
    | rendering payload =>
      rw [hp] at htrack
      simp [htrack, Phase.stage]
    | responding rest =>
      rw [hp] at htrack
      simp [htrack, Phase.stage]
    | closed outcome =>
      rw [hp] at htrack
      exact htrack.elim
  | true =>
    obtain ⟨d, outcome, ending, _, hdtrack, hclosing, hrun⟩ := exists_closing hs
    obtain ⟨hphase, hstages⟩ := hclosing.step hdtrack
    rw [← run_of_closed hclosed, h.run_eq, hrun, hphase, hstages, List.getLast?_append,
      hclosing.getLast?_ending]
    rfl

end Conversation

/-- **The life of a session.** Whatever the input brings, whatever the output does and whatever the
policy is, a session goes around once for each request that it answers, and so many are counted;
then it closes, once and for good, from the stage that it is in. It succeeds only by closing while
it awaits a request, when the input ends before another frame. A request that has no picture and is
not skipped closes it from rendering, and output that fails closes it from responding; so does a
picture that is too long for a frame. To serve it again, however often, does nothing at all. -/
theorem Conversation.serve_stages (r : Renderer) (source : Source) (sink : Sink) (files : Files) :
    let start : Conversation := ⟨{ renderer := r }, source, sink, files⟩
    let last := start.serve
    let session := last.2.session
    let passed := Stage.rounds session.summary.frames
    (∀ c, start.Reaches c →
      c.session.stages.getLast?.getD .awaitingRequest = c.session.phase.stage) ∧
    session.phase.stage = .closed ∧ session.stages.count .closed = 1 ∧
    (session.stages = passed ++ [.closed] ∨
      session.stages = passed ++ [.rendering, .closed] ∨
      session.stages = passed ++ [.rendering, .responding, .closed]) ∧
    (∀ summary, last.1 = .ok summary →
      summary = session.summary ∧ session.stages = passed ++ [.closed] ∧
      ∃ c, start.Reaches c ∧ c.session.phase = .receiving .start ∧
        (c.source.read Frame.lengthSize).1 = .ended ∧ last.2 = c.step) ∧
    (∀ c payload fault, start.Reaches c → c.session.phase = .rendering payload →
      (c.session.renderer.renderPayload c.files payload).1 = .error fault →
      c.session.skips fault = false →
      last.1 = .error fault ∧ session.stages = passed ++ [.rendering, .closed]) ∧
    (∀ c text, start.Reaches c → c.outputFault? = some text →
      last.1 = .error (.stream text) ∧
      session.stages = passed ++ [.rendering, .responding, .closed]) ∧
    (∀ c payload picture, start.Reaches c → c.session.phase = .rendering payload →
      (c.session.renderer.renderPayload c.files payload).1 = .ok picture →
      Frame.longest < (Png.write picture).length →
      last.1 = .error (.frameTooLarge (Png.write picture).length Frame.longest) ∧
      session.stages = passed ++ [.rendering, .responding, .closed]) ∧
    ∀ count, (Nat.repeat (fun c => c.serve.2) count last.2).serve =
      (.ok session.summary, last.2) := by
  intro start last session passed
  have hs : start.session.OnTrack := ⟨rfl, rfl⟩
  obtain ⟨c, outcome, ending, hc, _, hclosing, hrun⟩ := exists_closing hs
  obtain ⟨hresult, hphase, hstages⟩ := hc.serve_of_closing hs hclosing
  have hclosed : last.2.isClosed = true := decide_eq_true (congrArg Phase.stage hphase)
  have hlast : last.2 = c.step := by
    obtain ⟨_, _, hserve⟩ := serve_eq_run (isClosed_of_onTrack hs)
    rw [← hrun]
    exact congrArg Prod.snd hserve
  refine ⟨fun d hd => hd.getLast?_stages hs, of_decide_eq_true hclosed, ?_, ?_, ?_, ?_, ?_, ?_, ?_⟩
  · show start.serve.2.session.stages.count .closed = 1
    rw [hstages, List.count_append, Stage.count_closed_rounds]
    cases hclosing <;> rfl
  · cases hclosing with
    | ended => exact .inl hstages
    | unread => exact .inl hstages
    | unrendered => exact .inr (.inl hstages)
    | unsendable => exact .inr (.inr hstages)
    | unwritten => exact .inr (.inr hstages)
  · intro summary hok
    have hok : start.serve.1 = .ok summary := hok
    rw [hresult] at hok
    cases hclosing with
    | ended hp hd =>
      cases hok
      exact ⟨rfl, hstages, c, hc, hp, hd, hlast⟩
    | _ => cases hok
  · intro d payload fault hd hp hpicture hskips
    obtain ⟨hresult, _, hstages⟩ := hd.serve_of_closing hs (.unrendered hp hpicture hskips)
    exact ⟨hresult, hstages⟩
  · intro d text hd hf
    obtain ⟨hresult, _, hstages⟩ := hd.serve_of_closing hs (.unwritten hf)
    exact ⟨hresult, hstages⟩
  · intro d payload picture hd hp hpicture hlong
    obtain ⟨hresult, _, hstages⟩ := hd.serve_of_closing hs (.unsendable hp hpicture hlong)
    exact ⟨hresult, hstages⟩
  · intro count
    rw [repeat_serve_of_closed hclosed, serve_of_closed hclosed]

/-- The first request is refused and answered with an empty frame; the output is not flushed after
the second one. -/
theorem Conversation.serve_stages_stuck_output :
    let settings : Settings := { width := 1, height := 1, policy := .emptyFrame }
    let r : Renderer := ⟨settings, rfl, .memory .inkless, ⟨false, []⟩⟩
    let source : Source := ⟨[.bytes [1, 0, 0, 0, 63, 1, 0, 0], .interrupted, .bytes [0, 63, 9]]⟩
    let sink : Sink := {
      room := fun _ => .ok 9
      flushing := fun flushes => if flushes = 0 then .ok () else .error "stuck" }
    let last := Conversation.serve ⟨{ renderer := r }, source, sink, {}⟩
    last.1 = .error (.stream "stuck") ∧
      last.2.session.stages = [.awaitingRequest, .rendering, .responding, .awaitingRequest,
        .rendering, .responding, .closed] ∧
      last.2.serve = (.ok ⟨1, 2⟩, last.2) := by
  intro settings r source sink last
  obtain ⟨_, _, _, _, _, _, hfault, _, hagain⟩ := serve_stages r source sink {}
  -- a length, a payload, its answer and the flush; then again, but the length comes in two pieces
  -- with an interruption between them
  have hstuck : (Nat.repeat step 12 ⟨{ renderer := r }, source, sink, {}⟩).outputFault? =
      some "stuck" := by decide +kernel
  obtain ⟨hresult, hstages⟩ := hfault _ "stuck" (reaches_repeat 12 _) hstuck
  have hsummary : last.2.session.summary = ⟨1, 2⟩ := by
    have hserve : last = _ := (reaches_repeat 12 _).serve_of_outputFault? rfl hstuck
    rw [hserve]
    decide +kernel
  refine ⟨hresult, ?_, ?_⟩
  · rw [hstages, hsummary]
    rfl
  · rw [← hsummary]
    exact hagain 0

end StatusPanel
