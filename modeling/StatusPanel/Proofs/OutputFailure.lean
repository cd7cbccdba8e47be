import StatusPanel.Proofs.Ledger

/-!
# Output that fails

What the output has taken when it fails, compared with what an output that never fails would have
taken. At each moment of a run the rest of it could be given to such an output
(`Conversation.withOutput`), and this leads to the same end from every moment up to the failure
(`Reaches.run_withOutput`). So an output that fails has taken whole responses of the undisturbed run
and a part of the next one (`serve_output_failure`).
-/

namespace StatusPanel

/-! ## Frames side by side -/

/-- Payloads that can be sent are told by the bytes of their frames. -/
theorem Frame.flatMap_encode_inj {ps qs : List Bytes} (hp : ∀ p ∈ ps, p.length ≤ longest)
    (hq : ∀ q ∈ qs, q.length ≤ longest) (h : ps.flatMap encode = qs.flatMap encode) : ps = qs := by
  have parse_cons {p : Bytes} (rest : List Bytes) (hle : p.length ≤ longest) :
      parse longest ((p :: rest).flatMap encode) = (.ok (some p), rest.flatMap encode) :=
    parse_encode hle hle _
  induction ps generalizing qs with
  | nil =>
    cases qs with
    | nil => rfl
    | cons q qs =>
      have hparse := parse_cons qs (hq q List.mem_cons_self)
      rw [← h] at hparse
      cases hparse
  | cons p ps ih =>
    have hparse := parse_cons ps (hp p List.mem_cons_self)
    rw [h] at hparse
    cases qs with
    | nil => cases hparse
    | cons q qs =>
      rw [parse_cons qs (hq q List.mem_cons_self)] at hparse
      obtain ⟨hfirst, hrest⟩ := Prod.mk.inj hparse
      cases hfirst
      rw [ih (fun p' h' => hp p' (List.mem_cons_of_mem _ h'))
        (fun q' h' => hq q' (List.mem_cons_of_mem _ h')) hrest.symm]

/-! ## Another output -/

namespace Conversation

/-- The conversation with an output that has taken the same bytes and behaves as another one. -/
def withOutput (c : Conversation) (w : Sink) : Conversation :=
  { c with sink := { w with taken := c.sink.taken, flushes := c.sink.flushes } }

variable {start c : Conversation} {w : Sink}

/-- Where the session does not respond its output makes no difference. -/
theorem step_withOutput (h : ∀ rest, c.session.phase ≠ .responding rest) :
    (c.withOutput w).step = c.step.withOutput w := by
  cases hp : c.session.phase with
  | idle => rw [step_idle hp, @step_idle (c.withOutput w) hp]; rfl
  | receiving p => rw [step_receiving hp, @step_receiving (c.withOutput w) p hp]; rfl
  | rendering payload => rw [step_rendering hp, @step_rendering (c.withOutput w) payload hp]; rfl
  | responding rest => exact absurd hp (h rest)
  | closed outcome =>
    have hclosed : c.isClosed = true := by simp [isClosed, hp, Phase.stage]
    rw [step_closed hclosed, @step_closed (c.withOutput w) hclosed]

/-- Willing output takes the rest of a response at once. -/
theorem run_withOutput_responding (hw : w.Willing) {rest : Frame.Unwritten}
    (hp : c.session.phase = .responding rest) (hne : ∀ part ∈ rest, part ≠ []) :
    (c.withOutput w).run =
      { c with
        session := c.session.answered (.ok ())
        sink := { w with
          taken := c.sink.taken ++ rest.flatten
          flushes := c.sink.flushes + 1 } }.run := by
  have hrun := run_responding (c.withOutput w) hp
  dsimp only at hrun
  rw [hrun, withOutput, Frame.writeOn_willing rest (hw.having _ _) hne]

/-- **A step does not change the end that willing output would lead to**, unless the output fails
in it. -/
theorem run_withOutput_step (hw : w.Willing)
    (hne : ∀ rest, c.session.phase = .responding rest → ∀ part ∈ rest, part ≠ [])
    (hf : c.outputFault? = none) : (c.step.withOutput w).run = (c.withOutput w).run := by
  cases hp : c.session.phase with
  | responding rest =>
    rw [run_withOutput_responding hw hp (hne rest hp)]
    cases rest with
    | nil =>
      rw [step_flush hp, flush_of_outputFault?_eq_none hp hf, Session.flushed_eq,
        List.flatten_nil, Array.appendList_nil]
      rfl
    | cons part rest =>
      obtain ⟨count, hwrite⟩ := write_of_outputFault?_eq_none hp hf
      have hrest : ∀ p ∈ Frame.Unwritten.advance (count + 1) (part :: rest), p ≠ [] :=
        Frame.Unwritten.ne_nil_of_mem_advance fun p hmem =>
          hne _ hp p (List.mem_cons_of_mem _ hmem)
      -- what was left of the response before this step is now partly taken
      rw [step_write_taken hp hwrite, run_withOutput_responding hw rfl hrest]
      dsimp only
      rw [Frame.Unwritten.taken_append_advance, Session.answered_responding _ hp]
  | _ =>
    rw [← step_withOutput fun rest h => by rw [hp] at h; cases h]
    exact run_step _

/-! ## Moments of a run -/

theorem isClosed_eq_false_of_responding {rest : Frame.Unwritten}
    (h : c.session.phase = .responding rest) : c.isClosed = false :=
  isClosed_eq_false_of_phase h nofun

/-- No part of a response that is yet to be written is empty. -/
theorem Reaches.ne_nil_of_responding (h : start.Reaches c) (hs : start.BetweenRequests)
    {rest : Frame.Unwritten} (hp : c.session.phase = .responding rest) :
    ∀ part ∈ rest, part ≠ [] := by
  obtain ⟨l, hl⟩ := h.fits hs (.inl (isClosed_eq_false_of_responding hp))
  have hphase := hl.phase
  rw [hp] at hphase
  exact hphase.2.2.1

/-- **Up to a failure of the output the run can be ended with willing output**, from any moment on
with the same result. -/
theorem Reaches.run_withOutput (h : start.Reaches c) (hs : start.BetweenRequests)
    (hc : c.isClosed = false ∨ ∀ d, start.Reaches d → d.outputFault? = none) (hw : w.Willing) :
    (c.withOutput w).run = (start.withOutput w).run := by
  refine h.invariant (fun d => (d.withOutput w).run = (start.withOutput w).run) rfl ?_ hc
  intro d hd hfault hrun
  rw [run_withOutput_step hw (fun rest hp => hd.ne_nil_of_responding hs hp) hfault]
  exact hrun

/-- Willing output stays willing. -/
theorem Reaches.willing (h : start.Reaches c) (hw : start.sink.Willing) : c.sink.Willing := by
  induction h with
  | refl => exact hw
  | @step d _ ih =>
    unfold Conversation.step
    cases d.session.next with
    | go session => exact ih
    | read most resume => exact ih
    | load path resume => exact ih
    | stop => exact ih
    | write part resume =>
      rcases d.sink.write_cases part with ⟨text, hwrite⟩ | ⟨count, hwrite⟩
      · simpa only [hwrite] using ih
      · simpa only [hwrite] using ih.having _ _
    | flush resume =>
      simpa only [ih.flush] using ih.having _ _

/-- Willing output never fails. -/
theorem Reaches.outputFault?_of_willing (h : start.Reaches c) (hs : start.BetweenRequests)
    (hw : start.sink.Willing) : c.outputFault? = none := by
  cases hf : c.outputFault? with
  | none => rfl
  | some text =>
    obtain ⟨rest, hp⟩ := phase_of_outputFault? hf
    have hne := h.ne_nil_of_responding hs hp
    cases rest with
    | nil =>
      rw [outputFault?_flush hp, (h.willing hw).flush] at hf
      cases hf
    | cons part rest =>
      obtain ⟨count, hwrite⟩ := (h.willing hw).write (hne part List.mem_cons_self)
      rw [outputFault?_write hp, hwrite] at hf
      cases hf

/-! ## Ends of runs -/

/-- The books of a run whose output never fails: at its end all that was written is whole
responses. -/
theorem fits_run (hs : start.BetweenRequests)
    (hf : ∀ d, start.Reaches d → d.outputFault? = none) :
    ∃ l : Ledger, l.Fits start start.run ∧ start.run.sink.taken.toList =
      start.sink.taken.toList ++ l.responses.flatMap Frame.encode := by
  obtain ⟨l, hl⟩ := (reaches_run start).fits hs (.inr hf)
  refine ⟨l, hl, ?_⟩
  obtain ⟨outcome, hp⟩ := start.phase_run
  have hwritten := hl.phase
  rw [hp] at hwritten
  rw [hl.output, show l.written = [] from hwritten, List.append_nil]

/-- Willing output goes on where an output has failed: it takes the rest of the response at hand,
and the later ones. -/
theorem Reaches.output_of_outputFault? (h : start.Reaches c) (hs : start.BetweenRequests)
    {text : String} (hf : c.outputFault? = some text) (hw : w.Willing) :
    ∃ (l : Ledger) (response : Bytes) (later : List Bytes), l.Fits start c ∧ l.read = [] ∧
      l.requests.length = l.responses.length + 1 ∧ l.written <+: Frame.encode response ∧
      (∀ r ∈ l.responses ++ response :: later, r.length ≤ Frame.longest) ∧
      (start.withOutput w).run.sink.taken.toList =
        start.sink.taken.toList ++ (l.responses ++ response :: later).flatMap Frame.encode := by
  obtain ⟨rest, hp⟩ := phase_of_outputFault? hf
  have hopen := isClosed_eq_false_of_responding hp
  obtain ⟨l, hl⟩ := h.fits hs (.inl hopen)
  have hphase := hl.phase
  rw [hp] at hphase
  obtain ⟨hlength, hread, hne, response, hresponse, hle⟩ := hphase
  rw [← h.run_withOutput hs (.inl hopen) hw, run_withOutput_responding hw hp hne]
  generalize hd : ({ c with
    session := c.session.answered (.ok ())
    sink := { w with
      taken := c.sink.taken ++ rest.flatten
      flushes := c.sink.flushes + 1 } } : Conversation) = d
  have hds : d.BetweenRequests := by
    rw [← hd]
    exact .inr rfl
  have hdw : d.sink.Willing := by
    rw [← hd]
    exact hw.having _ _
  obtain ⟨l', hl', houtput⟩ := fits_run hds fun e he => he.outputFault?_of_willing hds hdw
  refine ⟨l, response, l'.responses, hl, hread, hlength, ⟨rest.flatten, hresponse⟩, ?_, ?_⟩
  · exact List.forall_mem_append.2 ⟨hl.sendable, List.forall_mem_cons.2 ⟨hle, hl'.sendable⟩⟩
  · have htaken : d.sink.taken.toList = start.sink.taken.toList ++
        l.responses.flatMap Frame.encode ++ Frame.encode response := by
      rw [← hd, ← hresponse, ← List.append_assoc, ← hl.output]
      exact Array.toList_appendList
    rw [houtput, htaken]
    simp

/-! ## The service -/

/-- The service has closed with the outcome of its run. -/
theorem serve_eq_run (h : start.isClosed = false) :
    ∃ outcome, start.run.session.phase = .closed outcome ∧
      start.serve = (outcome.map fun _ => start.run.session.summary, start.run) := by
  obtain ⟨outcome, hp⟩ := start.phase_run
  exact ⟨outcome, hp, serve_of_phase h hp⟩

/-- Where the output fails the service fails with the same, and has nothing more to do. -/
theorem Reaches.serve_of_outputFault? (h : start.Reaches c) (hopen : start.isClosed = false)
    {text : String} (hf : c.outputFault? = some text) :
    start.serve = (.error (.stream text), c.step) := by
  have hphase : c.step.session.phase = .closed (.error (.stream text)) := by
    rw [step_of_outputFault? hf]
    rfl
  exact h.serve_of_step hopen hphase

/-- Where the output never fails willing output makes no difference to the run. -/
theorem run_withOutput_of_steady (hs : start.BetweenRequests)
    (hf : ∀ c, start.Reaches c → c.outputFault? = none) (hw : w.Willing) :
    (start.withOutput w).run = start.run.withOutput w := by
  -- the run has come to its end, where the output does not matter any more
  rw [← (reaches_run start).run_withOutput hs (.inr hf) hw]
  exact run_of_closed start.isClosed_run

/-- Nor does it make a difference to the service. -/
theorem serve_withOutput_of_steady (hs : start.BetweenRequests)
    (hopen : start.isClosed = false) (hf : ∀ c, start.Reaches c → c.outputFault? = none)
    (hw : w.Willing) :
    (start.withOutput w).serve = (start.serve.1, start.serve.2.withOutput w) := by
  have hrun := run_withOutput_of_steady hs hf hw
  obtain ⟨outcome, hphase, hserve⟩ := serve_eq_run hopen
  have hphase' : (start.withOutput w).run.session.phase = .closed outcome := by
    rw [hrun]
    exact hphase
  rw [@serve_of_phase (start.withOutput w) hopen _ hphase', hserve, hrun]
  rfl

end Conversation

/-- Output that has taken nothing yet. -/
def Sink.IsNew (s : Sink) : Prop :=
  s.taken = #[] ∧ s.flushes = 0

/-- An output in the place of another one, when both are new. -/
theorem Conversation.withOutput_of_isNew {c : Conversation} {w : Sink} (hc : c.sink.IsNew)
    (hw : w.IsNew) : c.withOutput w = { c with sink := w } := by
  obtain ⟨room, flushing, taken, flushes⟩ := w
  obtain ⟨rfl, rfl⟩ := hw
  rw [withOutput, hc.1, hc.2]

/-- **Output that fails leaves a clean prefix.** Let `best` be the service of the same input with an
output that never fails; what that output takes is whole responses. If at some moment `c` of the
service the output does not take what it is offered, or is not flushed, then this is what the
service fails with and its session is closed; nothing happens after that moment. The output has then
taken as many whole responses as are counted, each of them flushed, and a part of the next one, and
the input has been read to the end of the request that this one answers. If the output does not
fail, it takes all responses, and is flushed after each. -/
theorem Conversation.serve_output_failure (r : Renderer) (source : Source) (files : Files)
    (sink ideal : Sink) (new : sink.IsNew) (idealNew : ideal.IsNew) (willing : ideal.Willing) :
    let start : Conversation := ⟨{ renderer := r }, source, sink, files⟩
    let last := start.serve
    let best := Conversation.serve ⟨{ renderer := r }, source, ideal, files⟩
    last.2.session.phase.stage = .closed ∧
    ∃ responses : List Bytes,
      (∀ response ∈ responses, response.length ≤ Frame.longest) ∧
      best.2.sink.taken.toList = responses.flatMap Frame.encode ∧
      (∀ c text, start.Reaches c → c.outputFault? = some text →
        last.1 = .error (.stream text) ∧
        last.2 = c.step ∧ last.2.sink = c.sink ∧
        ∃ (response part : Bytes) (requests : List Bytes),
          let k := last.2.session.summary.frames
          responses[k]? = some response ∧ part <+: Frame.encode response ∧
          last.2.sink.taken.toList = (responses.take k).flatMap Frame.encode ++ part ∧
          last.2.sink.flushes = k ∧
          requests.length = k + 1 ∧
          (∀ request ∈ requests,
            request.length ≤ r.settings.maxFrame ∧ request.length ≤ Frame.longest) ∧
          source.remaining = requests.flatMap Frame.encode ++ last.2.source.remaining) ∧
      ((∀ c, start.Reaches c → c.outputFault? = none) →
        last.1 = best.1 ∧ last.2.session = best.2.session ∧
        last.2.sink.taken = best.2.sink.taken ∧ last.2.sink.flushes = responses.length) := by
  intro start last best
  have hidle : start.BetweenRequests := .inl rfl
  have hbest : (start.withOutput ideal).serve = best := by
    rw [withOutput_of_isNew new idealNew]
  have hempty : start.sink.taken.toList = [] := congrArg Array.toList new.1
  obtain ⟨outcome, hphase, hlast⟩ := @serve_eq_run start rfl
  obtain ⟨_, _, hbestRun⟩ := @serve_eq_run (start.withOutput ideal) rfl
  obtain ⟨l₀, hl₀, houtput₀⟩ := @fits_run (start.withOutput ideal) hidle fun d hd =>
    hd.outputFault?_of_willing hidle (willing.having _ _)
  refine ⟨?_, l₀.responses, hl₀.sendable, ?_, ?_, ?_⟩
  · rw [show last.2 = start.run from congrArg Prod.snd hlast, hphase]
    rfl
  · rw [← hbest, hbestRun, houtput₀]
    exact congrArg (· ++ _) hempty
  · intro c text hc hf
    have hserve : last = (.error (.stream text), c.step) := hc.serve_of_outputFault? rfl hf
    obtain ⟨l, response, later, hl, hread, hlength, hpart, hsendable, hbestOutput⟩ :=
      hc.output_of_outputFault? hidle hf willing
    have hall : l.responses ++ response :: later = l₀.responses := by
      refine Frame.flatMap_encode_inj hsendable hl₀.sendable ?_
      exact List.append_cancel_left (hbestOutput.symm.trans houtput₀)
    have hframes : c.session.summary.frames = l.responses.length :=
      hl.frames.trans (Nat.zero_add _)
    have hinput := hl.input
    rw [hread, List.append_nil] at hinput
    rw [hserve, step_of_outputFault? hf]
    refine ⟨rfl, rfl, rfl, response, l.written, l.requests, ?_⟩
    dsimp only
    rw [Session.summary_close, hframes, ← hall]
    refine ⟨by simp, hpart, ?_, ?_, hlength, hl.whole, hinput⟩
    · rw [List.take_left, hl.output, hempty, List.nil_append]
    · rw [hl.flushes, new.2, Nat.zero_add]
  · intro hsteady
    obtain ⟨l, hl, houtput⟩ := fits_run hidle hsteady
    have hall : l.responses = l₀.responses := by
      refine Frame.flatMap_encode_inj hl.sendable hl₀.sendable ?_
      rw [run_withOutput_of_steady hidle hsteady willing] at houtput₀
      exact List.append_cancel_left (houtput.symm.trans houtput₀)
    rw [← hbest, serve_withOutput_of_steady hidle rfl hsteady willing]
    refine ⟨rfl, rfl, rfl, ?_⟩
    rw [show last.2 = start.run from congrArg Prod.snd hlast, hl.flushes, new.2, Nat.zero_add, hall]

/-- Both requests are refused and answered with an empty frame, but there is no room for the second
one. -/
theorem Conversation.serve_output_failure_full_sink :
    let settings : Settings := { width := 1, height := 1, policy := .emptyFrame }
    let r : Renderer := ⟨settings, rfl, .memory .inkless, ⟨false, []⟩⟩
    let source : Source := ⟨[.bytes [1, 0, 0], .bytes [0, 63, 1, 0, 0, 0, 63, 9]]⟩
    let sink : Sink := {
      room := fun taken => if taken < 6 then .ok 3 else .error "full"
      flushing := fun _ => .ok () }
    let last := Conversation.serve ⟨{ renderer := r }, source, sink, {}⟩
    last.1 = .error (.stream "full") ∧ last.2.session.phase.stage = .closed ∧
      last.2.session.summary.frames = 1 ∧ last.2.sink.flushes = 1 ∧
      last.2.sink.taken.toList = Frame.encode [] ++ [0, 0, 0] ∧
      last.2.source.remaining = [9] := by
  intro settings r source sink last
  obtain ⟨hclosed, _, _, _, hfault, _⟩ := serve_output_failure r source {} sink .unlimited
    ⟨rfl, rfl⟩ ⟨rfl, rfl⟩ Sink.willing_unlimited
  -- the length in two pieces, the payload, its answer in two parts, and the flush; then again
  obtain ⟨hresult, hlast, _⟩ := hfault _ "full" (reaches_repeat 12 _) (by decide +kernel)
  refine ⟨hresult, hclosed, ?_⟩
  rw [hlast]
  decide +kernel

end StatusPanel
