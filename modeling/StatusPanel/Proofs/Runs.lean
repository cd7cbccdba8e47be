import StatusPanel.Proofs.Frames
import StatusPanel.Session.Conversation

/-!
# Runs of conversations

What a conversation does in one step is told phase by phase (`step_idle` to `step_closed`), and what
it comes to in some steps is `Reaches`. A conversation takes many steps for one frame. Here they are
taken together: a run that is receiving goes on when the frame is read (`run_receiving`), and a run
that is responding goes on when the frame is written (`run_responding`), whatever the input and the
output do.
-/

namespace StatusPanel

/-- The stage that an event says is entered. -/
def Event.stage? : Event → Option Stage
  | .entered _ new => some new
  | _ => none

namespace Session

/-! ## What a session keeps -/

@[simp] theorem summary_enter (s : Session) (p : Phase) : (s.enter p).summary = s.summary := rfl

@[simp] theorem summary_close (s : Session) (outcome : Except Fault Unit) :
    (s.close outcome).summary = s.summary := by
  cases outcome with
  | error fault => rfl
  | ok u => rfl

@[simp] theorem renderer_close (s : Session) (outcome : Except Fault Unit) :
    (s.close outcome).renderer = s.renderer := by
  cases outcome with
  | error fault => rfl
  | ok u => rfl

/-! ## The stages that were entered -/

/-- The stages that the session has entered, in order. -/
def stages (s : Session) : List Stage :=
  s.log.filterMap Event.stage?

@[simp] theorem stages_tell (s : Session) (e : Event) :
    (s.tell e).stages = s.stages ++ e.stage?.toList := by
  simp only [stages, tell, List.filterMap_append, List.filterMap_cons, List.filterMap_nil]
  cases e.stage? <;> rfl

@[simp] theorem stages_enter (s : Session) (p : Phase) :
    (s.enter p).stages = s.stages ++ [p.stage] :=
  s.stages_tell _

@[simp] theorem stages_close (s : Session) (outcome : Except Fault Unit) :
    (s.close outcome).stages = s.stages ++ [.closed] := by
  cases outcome with
  | error fault => exact s.stages_enter _
  | ok u =>
    -- that the session has ended is told, but is no stage of its own
    show ((s.enter (.closed (.ok ()))).tell _).stages = _
    rw [stages_tell, stages_enter]
    exact List.append_nil _

/-! ## Frames as a whole -/

/-- How much of the frame was there does not matter once it is complete. -/
theorem received_receiving (s : Session) {p : Frame.Progress} (h : s.phase = .receiving p)
    (q : Frame.Progress) (frame : Except Fault (Option Bytes)) :
    { s with phase := .receiving q }.received frame = s.received frame := by
  obtain ⟨renderer, phase, summary, log⟩ := s
  cases h
  rcases frame with fault | _ | payload
  · rfl
  · rfl
  · rfl

/-- The response is written and flushed, or that failed. -/
def answered (s : Session) : Except Fault Unit → Session
  | .ok () => { s with summary.frames := s.summary.frames + 1 }.awaitRequest
  | .error fault => s.close (.error fault)

/-- How much of the frame was missing does not matter once it is written. -/
theorem answered_responding (s : Session) {u : Frame.Unwritten} (h : s.phase = .responding u)
    (v : Frame.Unwritten) (answer : Except Fault Unit) :
    { s with phase := .responding v }.answered answer = s.answered answer := by
  obtain ⟨renderer, phase, summary, log⟩ := s
  cases h
  cases answer with
  | error fault => rfl
  | ok u => rfl

theorem flushed_eq (s : Session) (answer : Except String Unit) :
    s.flushed answer = s.answered (answer.mapError .stream) := by
  cases answer with
  | error text => rfl
  | ok u => rfl

/-! ## Rendering as a whole -/

/-- A response is sent, unless its length cannot be written. -/
theorem respond_cases (s : Session) (response : Bytes) :
    (response.length ≤ Frame.longest ∧ ∃ parts, s.respond response = s.enter (.responding parts) ∧
        parts.flatten = Frame.encode response ∧ ∀ part ∈ parts, part ≠ []) ∨
      Frame.longest < response.length ∧
        s.respond response = (s.enter (.responding [])).close
          (.error (.frameTooLarge response.length Frame.longest)) := by
  unfold respond
  rcases Frame.ofPayload_cases response with ⟨hle, parts, hparts, hflat, hne⟩ | ⟨hlt, hrefused⟩
  · rw [hparts]
    exact .inl ⟨hle, parts, rfl, hflat, hne⟩
  · rw [hrefused]
    exact .inr ⟨hlt, rfl⟩

/-- The request is rendered, with the font from its file if need be. -/
def rendered (s : Session) (files : Files) (payload : Bytes) : Session :=
  match Document.read payload with
  | .error fault => s.conclude (.error fault)
  | .ok d =>
    match s.renderer.fontNeed with
    | .ready font => s.conclude (s.renderer.draw font d)
    | .file path => s.drawLoaded d path ((files.read path).mapError FileFault.text)

end Session

namespace Conversation

/-! ## What a step does -/

section Steps

variable {c : Conversation}

theorem step_idle (h : c.session.phase = .idle) :
    c.step = { c with session := c.session.awaitRequest } := by
  simp only [step, Session.next, h]

theorem step_receiving {p : Frame.Progress} (h : c.session.phase = .receiving p) :
    c.step = { c with
      session := c.session.deliver p (c.source.read p.missing).1
      source := (c.source.read p.missing).2 } := by
  simp only [step, Session.next, h]

theorem step_rendering {payload : Bytes} (h : c.session.phase = .rendering payload) :
    c.step = { c with session := c.session.rendered c.files payload } := by
  unfold Session.rendered
  cases hd : Document.read payload with
  | error fault => simp only [step, Session.next, h, hd]
  | ok d =>
    cases hf : c.session.renderer.fontNeed with
    | ready font => simp only [step, Session.next, h, hd, hf]
    | file path => simp only [step, Session.next, h, hd, hf]

theorem step_flush (h : c.session.phase = .responding []) :
    c.step = { c with
      session := c.session.flushed c.sink.flush.1
      sink := c.sink.flush.2 } := by
  simp only [step, Session.next, h]

theorem step_write {part : Bytes} {rest : Frame.Unwritten}
    (h : c.session.phase = .responding (part :: rest)) :
    c.step = { c with
      session := c.session.written (part :: rest) (c.sink.write part).1
      sink := (c.sink.write part).2 } := by
  simp only [step, Session.next, h]

/-- The output has taken some of what it was offered. -/
theorem step_write_taken {part : Bytes} {rest : Frame.Unwritten}
    (h : c.session.phase = .responding (part :: rest)) {count : Nat} {sink : Sink}
    (hwrite : c.sink.write part = (.ok (count + 1), sink)) :
    c.step = { c with
      session.phase := .responding (Frame.Unwritten.advance (count + 1) (part :: rest))
      sink } := by
  rw [step_write h, hwrite]
  rfl

theorem step_closed (h : c.isClosed = true) : c.step = c := by
  unfold isClosed at h
  cases hp : c.session.phase with
  | closed outcome => simp only [step, Session.next, hp]
  | _ => simp [hp, Phase.stage] at h

end Steps

/-! ## Steps and runs -/

theorem isClosed_eq_false_of_phase {c : Conversation} {p : Phase} (h : c.session.phase = p)
    (hp : p.stage ≠ .closed) : c.isClosed = false := by
  simpa [isClosed, h] using hp

theorem run_of_closed {c : Conversation} (h : c.isClosed = true) : c.run = c := by
  rw [run, dif_pos h]

theorem run_of_phase {c : Conversation} {outcome : Except Fault Unit}
    (h : c.session.phase = .closed outcome) : c.run = c :=
  run_of_closed (by simp [isClosed, h, Phase.stage])

theorem run_step (c : Conversation) : c.step.run = c.run := by
  by_cases h : c.isClosed = true
  · rw [step_closed h]
  · rw [run.eq_1 c, dif_neg h]

/-- A run comes to its end. -/
theorem isClosed_run (c : Conversation) : c.run.isClosed = true := by
  induction c using run.induct with
  | case1 c h => rw [run_of_closed h]; exact h
  | case2 c h _ ih =>
    rw [← run_step]
    exact ih

theorem phase_run (c : Conversation) : ∃ outcome, c.run.session.phase = .closed outcome := by
  have hclosed := c.isClosed_run
  unfold isClosed at hclosed
  cases hp : c.run.session.phase with
  | closed outcome => exact ⟨outcome, rfl⟩
  | _ => simp [hp, Phase.stage] at hclosed

/-! ## What a conversation comes to -/

/-- What a conversation comes to in some steps. -/
inductive Reaches (c : Conversation) : Conversation → Prop
  | refl : Reaches c c
  | step {d : Conversation} : Reaches c d → Reaches c d.step

/-- What a conversation comes to in some steps when its files may be changed at any time. -/
inductive Wanders (c : Conversation) : Conversation → Prop
  | refl : Wanders c c
  | step {d : Conversation} : Wanders c d → Wanders c d.step
  | change {d : Conversation} (files : Files) : Wanders c d → Wanders c { d with files }

theorem Reaches.wanders {c d : Conversation} (h : c.Reaches d) : c.Wanders d := by
  induction h with
  | refl => exact .refl
  | step _ ih => exact .step ih

theorem Reaches.of_step {c d : Conversation} (h : c.step.Reaches d) : c.Reaches d := by
  induction h with
  | refl => exact .step .refl
  | step _ ih => exact .step ih

theorem reaches_repeat (count : Nat) (c : Conversation) :
    c.Reaches (Nat.repeat step count c) := by
  induction count with
  | zero => exact .refl
  | succ count ih => exact .step ih

/-- The end of its run is what a conversation comes to. -/
theorem reaches_run (c : Conversation) : c.Reaches c.run := by
  induction c using run.induct with
  | case1 c h => rw [run_of_closed h]; exact .refl
  | case2 c h _ ih =>
    rw [← run_step]
    exact ih.of_step

theorem Reaches.run_eq {c d : Conversation} (h : c.Reaches d) : d.run = c.run := by
  induction h with
  | refl => rfl
  | step _ ih => rw [run_step, ih]

/-! ## Frames in a run -/

theorem run_idle (c : Conversation) (h : c.session.phase = .idle) :
    c.run = { c with session := c.session.awaitRequest }.run := by
  rw [← run_step, step_idle h]

/-- The outcome of a service is the one that its run has closed with. -/
theorem serve_of_phase {c : Conversation} (h : c.isClosed = false) {outcome : Except Fault Unit}
    (hrun : c.run.session.phase = .closed outcome) :
    c.serve = (outcome.map fun _ => c.run.session.summary, c.run) := by
  unfold serve
  rw [if_neg (by simp [h])]
  dsimp only
  rw [hrun]
  cases outcome with
  | error fault => rfl
  | ok u => rfl

/-- The step that closes a session decides what its service gives. -/
theorem Reaches.serve_of_step {c d : Conversation} (h : c.Reaches d) (hopen : c.isClosed = false)
    {outcome : Except Fault Unit} (hphase : d.step.session.phase = .closed outcome) :
    c.serve = (outcome.map fun _ => d.step.session.summary, d.step) := by
  have hrun : c.run = d.step := by
    rw [← h.run_eq, ← run_step]
    exact run_of_phase hphase
  rw [serve_of_phase hopen (by rw [hrun]; exact hphase), hrun]

/-- A conversation that is receiving goes on when the frame is read. -/
theorem run_receiving (c : Conversation) {p : Frame.Progress}
    (h : c.session.phase = .receiving p) :
    let r := Frame.readOn c.session.renderer.settings.maxFrame p c.source
    c.run = { c with session := c.session.received r.1, source := r.2 }.run := by
  induction hn : c.source.size using Nat.strongRecOn generalizing c p with
  | ind n ih =>
    subst hn
    dsimp only
    rw [← run_step, step_receiving h, Frame.readOn_eq]
    simp only [Session.deliver]
    cases ha : p.advance c.session.renderer.settings.maxFrame (c.source.read p.missing).1 with
    | complete frame => rfl
    | more q =>
      have hlt : (c.source.read p.missing).2.size < c.source.size := by
        refine c.source.size_read_lt p.missing_pos ?_
        intro hd
        obtain ⟨frame, hf, _⟩ := p.advance_ended c.session.renderer.settings.maxFrame
        rw [hd, hf] at ha
        cases ha
      -- the session has changed by its progress only, which the complete frame does not tell
      dsimp only
      rw [ih _ hlt _ rfl rfl]
      dsimp only
      rw [Session.received_receiving _ h]

/-- A conversation that is responding goes on when the frame is written. -/
theorem run_responding (c : Conversation) {u : Frame.Unwritten}
    (h : c.session.phase = .responding u) :
    let w := Frame.writeOn u c.sink
    c.run = { c with session := c.session.answered w.1, sink := w.2 }.run := by
  induction hn : u.size using Nat.strongRecOn generalizing c u with
  | ind n ih =>
    subst hn
    dsimp only
    rw [← run_step]
    cases u with
    | nil => rw [step_flush h, Frame.writeOn_nil, Session.flushed_eq]
    | cons part rest =>
      rw [step_write h, Frame.writeOn_cons]
      simp only [Session.written]
      cases ha : Frame.Unwritten.answered (part :: rest) (c.sink.write part).1 with
      | error fault => rfl
      | ok v =>
        dsimp only
        rw [ih _ (Frame.Unwritten.size_answered ha) _ rfl rfl]
        dsimp only
        rw [Session.answered_responding _ h]

end Conversation

end StatusPanel
