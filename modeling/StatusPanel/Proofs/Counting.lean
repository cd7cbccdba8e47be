import StatusPanel.Proofs.Stages

/-!
# Counting answers

How many answers are counted, and how many of them as empty. An answer is counted when it has been
written and flushed, but that it is empty is counted before it is written. So the two counts agree
while no answer is at hand, and the count of the empty ones is ahead while an empty one is
(`Ledger.Counts`). A step keeps this, and output that fails ends the session with the counts as they
are; so they agree at the end of a run unless the output fails in an empty answer
(`Conversation.serve_counts`).
-/

namespace StatusPanel

/-! ## Frames side by side -/

/-- When it is known how many payloads there are, the bytes of their frames tell what they are, and
what comes after them. -/
theorem Frame.flatMap_encode_append_inj {ps qs : List Bytes} {after after' : Bytes}
    (hp : ∀ p ∈ ps, p.length ≤ longest) (hq : ∀ q ∈ qs, q.length ≤ longest)
    (hlength : ps.length = qs.length)
    (h : ps.flatMap encode ++ after = qs.flatMap encode ++ after') : ps = qs ∧ after = after' := by
  induction ps generalizing qs with
  | nil =>
    obtain rfl : qs = [] := List.length_eq_zero_iff.1 hlength.symm
    exact ⟨rfl, h⟩
  | cons p ps ih =>
    cases qs with
    | nil => cases hlength
    | cons q qs =>
      have hple := hp p List.mem_cons_self
      have hqle := hq q List.mem_cons_self
      rw [List.flatMap_cons, List.append_assoc, List.flatMap_cons, List.append_assoc] at h
      have hparse := parse_encode hple hple (ps.flatMap encode ++ after)
      rw [h, parse_encode hqle hqle] at hparse
      obtain ⟨hfirst, hrest⟩ := Prod.mk.inj hparse
      cases hfirst
      obtain ⟨rfl, hafter⟩ := ih (fun p' h' => hp p' (List.mem_cons_of_mem _ h'))
        (fun q' h' => hq q' (List.mem_cons_of_mem _ h')) (Nat.succ.inj hlength) hrest.symm
      exact ⟨rfl, hafter⟩

/-! ## What is counted in a step -/

namespace Session

/-- While it reads a request a session counts nothing, and it does not begin to answer. -/
theorem deliver_counts (s : Session) (p : Frame.Progress) (d : Delivery) :
    (s.deliver p d).summary = s.summary ∧
      ∀ rest, (s.deliver p d).phase ≠ .responding rest := by
  unfold deliver
  cases p.advance s.renderer.settings.maxFrame d with
  | more q => exact ⟨rfl, nofun⟩
  | complete frame =>
    rcases frame with fault | _ | payload
    · exact ⟨rfl, nofun⟩
    · exact ⟨rfl, nofun⟩
    · exact ⟨rfl, nofun⟩

/-- A request that is answered by nothing is counted as skipped when the answer begins. -/
theorem conclude_counts (s : Session) (picture : Except Fault Picture) :
    let t := s.conclude picture
    (∃ outcome, t.phase = .closed outcome ∧ t.summary = s.summary) ∨
      ∃ parts response, t.phase = .responding parts ∧ parts.flatten = Frame.encode response ∧
        response.length ≤ Frame.longest ∧
        t.summary = ⟨s.summary.frames, s.summary.skipped + [response].count []⟩ := by
  cases picture with
  | ok p =>
    have hne : Png.write p ≠ [] := by simp [Png.write, Png.signature]
    dsimp only [conclude]
    rcases s.respond_cases (Png.write p) with ⟨hle, parts, hparts, hflat, _⟩ | ⟨_, hrefused⟩
    · have hcount : [Png.write p].count [] = 0 := List.count_eq_zero.2 (by simpa using hne.symm)
      refine .inr ⟨parts, _, ?_, hflat, hle, ?_⟩
      · rw [hparts]
        rfl
      · rw [hparts, hcount]
        rfl
    · rw [hrefused]
      exact .inl ⟨_, rfl, rfl⟩
  | error fault =>
    simp only [conclude]
    split
    · rcases Session.respond_cases _ [] with ⟨hle, parts, hparts, hflat, _⟩ | ⟨hlt, _⟩
      · rw [hparts]
        exact .inr ⟨parts, [], rfl, hflat, hle, rfl⟩
      · cases hlt
    · exact .inl ⟨_, rfl, rfl⟩

end Session

/-! ## The books -/

/-- The ledger tells also which of the responses are empty: as many as are counted as skipped, where
the one at hand is counted already. -/
structure Ledger.Counts (l : Ledger) (start c : Conversation) : Prop extends l.Fits start c where
  settled : (∀ rest, c.session.phase ≠ .responding rest) →
    c.session.summary.skipped = start.session.summary.skipped + l.responses.count []
  atHand : ∀ rest, c.session.phase = .responding rest → ∃ response,
    l.written ++ rest.flatten = Frame.encode response ∧ response.length ≤ Frame.longest ∧
      c.session.summary.skipped =
        start.session.summary.skipped + (l.responses ++ [response]).count []

/-- There is only one way to tell what the output has taken. -/
theorem Ledger.Fits.eq_of_output {l : Ledger} {start c : Conversation} (h : l.Fits start c)
    (responses : List Bytes) (written : Bytes)
    (hsendable : ∀ response ∈ responses, response.length ≤ Frame.longest)
    (hframes : c.session.summary.frames = start.session.summary.frames + responses.length)
    (houtput : c.sink.taken.toList =
      start.sink.taken.toList ++ responses.flatMap Frame.encode ++ written) :
    l.responses = responses ∧ l.written = written := by
  refine Frame.flatMap_encode_append_inj h.sendable hsendable ?_ ?_
  · have := h.frames
    omega
  · have hboth := h.output.symm.trans houtput
    rw [List.append_assoc, List.append_assoc] at hboth
    exact List.append_cancel_left hboth

namespace Ledger.Counts

variable {l l' : Ledger} {start c : Conversation}

/-- A step that does not write leaves the responses as they are. -/
theorem eq_of_silent (h : l.Counts start c) (hl' : l'.Fits start c.step)
    (hsink : c.step.sink = c.sink)
    (hframes : c.step.session.summary.frames = c.session.summary.frames) :
    l'.responses = l.responses ∧ l'.written = l.written :=
  hl'.eq_of_output _ _ h.sendable (hframes.trans h.frames) (by rw [hsink]; exact h.output)

theorem step_idle (h : l.Counts start c) (hl' : l'.Fits start c.step)
    (hp : c.session.phase = .idle) : l'.Counts start c.step := by
  have hskipped := h.settled (by rw [hp]; nofun)
  have hstep := Conversation.step_idle hp
  obtain ⟨hresponses, _⟩ := h.eq_of_silent hl' (by rw [hstep]) (by rw [hstep]; rfl)
  rw [← hresponses] at hskipped
  rw [hstep] at hl' ⊢
  exact { hl' with settled := fun _ => hskipped, atHand := nofun }

theorem step_receiving (h : l.Counts start c) (hl' : l'.Fits start c.step) {p : Frame.Progress}
    (hp : c.session.phase = .receiving p) : l'.Counts start c.step := by
  have hskipped := h.settled (by rw [hp]; nofun)
  obtain ⟨hsummary, hphase⟩ := c.session.deliver_counts p (c.source.read p.missing).1
  have hstep := Conversation.step_receiving hp
  obtain ⟨hresponses, _⟩ := h.eq_of_silent hl' (by rw [hstep])
    (by rw [hstep]; exact congrArg Summary.frames hsummary)
  rw [← hresponses, ← hsummary] at hskipped
  rw [hstep] at hl' ⊢
  exact { hl' with
    settled := fun _ => hskipped
    atHand := fun rest hrest => absurd hrest (hphase rest) }

/-- The answer to a request is counted as skipped before any of it is written. -/
theorem step_rendering (h : l.Counts start c) (hl' : l'.Fits start c.step) {payload : Bytes}
    (hp : c.session.phase = .rendering payload) : l'.Counts start c.step := by
  have hskipped := h.settled (by rw [hp]; nofun)
  have hphase := h.phase
  rw [hp] at hphase
  obtain ⟨_, _, hwritten⟩ := hphase
  have hstep := Conversation.step_rendering hp
  obtain ⟨t, hconclude, _, _, hsummary, _⟩ := c.session.rendered_eq_conclude c.files payload
  have hcounts := t.conclude_counts (c.session.renderer.renderPayload c.files payload).1
  obtain ⟨_, hframes, _⟩ := t.conclude_decided _
  rw [← hconclude, hsummary] at hframes hcounts
  obtain ⟨hresponses, hunwritten⟩ := h.eq_of_silent hl' (by rw [hstep])
    (by rw [hstep]; exact hframes)
  rw [← hresponses] at hskipped
  rw [hstep] at hl' ⊢
  rcases hcounts with ⟨outcome, hclosed, hcounts⟩ | ⟨parts, response, hparts, hflat, hle, hcounts⟩
  · rw [← hcounts] at hskipped
    refine { hl' with settled := fun _ => hskipped, atHand := fun rest hrest => ?_ }
    cases hclosed.symm.trans hrest
  · refine { hl' with
      settled := fun hrest => absurd hparts (hrest parts), atHand := fun rest hrest => ?_ }
    cases hparts.symm.trans hrest
    refine ⟨response, ?_, hle, ?_⟩
    · rw [hunwritten, hwritten, hflat, List.nil_append]
    · dsimp only
      rw [hcounts, hskipped, List.count_append, Nat.add_assoc]

theorem step_write (h : l.Counts start c) (hl' : l'.Fits start c.step) {part : Bytes}
    {rest : Frame.Unwritten} (hp : c.session.phase = .responding (part :: rest))
    (hf : c.outputFault? = none) : l'.Counts start c.step := by
  obtain ⟨response, hresponse, hle, hskipped⟩ := h.atHand _ hp
  obtain ⟨count, hwrite⟩ := Conversation.write_of_outputFault?_eq_none hp hf
  have hstep := Conversation.step_write_taken hp hwrite
  obtain ⟨hresponses, hwritten⟩ := hl'.eq_of_output _ (l.written ++ part.take (count + 1))
    h.sendable (by rw [hstep]; exact h.frames)
    (by rw [hstep, Array.toList_appendList, h.output, List.append_assoc])
  rw [hstep] at hl' ⊢
  refine { hl' with
    settled := fun hne => absurd rfl (hne _), atHand := fun rest' hrest => ?_ }
  cases hrest
  refine ⟨response, ?_, hle, ?_⟩
  · rw [hwritten, List.append_assoc, Frame.Unwritten.take_append_advance]
    exact hresponse
  · rw [hresponses]
    exact hskipped

/-- The response at hand is one of those that are counted when it has been flushed. -/
theorem step_flush (h : l.Counts start c) (hl' : l'.Fits start c.step)
    (hp : c.session.phase = .responding []) (hf : c.outputFault? = none) :
    l'.Counts start c.step := by
  obtain ⟨response, hresponse, hle, hskipped⟩ := h.atHand _ hp
  rw [List.flatten_nil, List.append_nil] at hresponse
  have hstep := Conversation.step_flush hp
  rw [Conversation.flush_of_outputFault?_eq_none hp hf] at hstep
  have hresponses : l'.responses = l.responses ++ [response] := by
    refine (hl'.eq_of_output _ [] ?_ ?_ ?_).1
    · exact List.forall_mem_append.2 ⟨h.sendable, List.forall_mem_singleton.2 hle⟩
    · rw [hstep, List.length_append, ← Nat.add_assoc, ← h.frames]
      rfl
    · rw [hstep]
      simp [h.output, hresponse]
  rw [hstep] at hl' ⊢
  refine { hl' with settled := fun _ => ?_, atHand := nofun }
  rw [hresponses]
  exact hskipped

/-- **A step keeps count**, unless the output fails. -/
theorem step (h : l.Counts start c) (hf : c.outputFault? = none) :
    ∃ l' : Ledger, l'.Counts start c.step := by
  obtain ⟨l', hl'⟩ := h.toFits.step hf
  cases hp : c.session.phase with
  | idle => exact ⟨l', h.step_idle hl' hp⟩
  | receiving p => exact ⟨l', h.step_receiving hl' hp⟩
  | rendering payload => exact ⟨l', h.step_rendering hl' hp⟩
  | responding rest =>
    cases rest with
    | nil => exact ⟨l', h.step_flush hl' hp hf⟩
    | cons part rest => exact ⟨l', h.step_write hl' hp hf⟩
  | closed outcome =>
    have hclosed : c.isClosed = true := by simp [Conversation.isClosed, hp, Phase.stage]
    rw [Conversation.step_closed hclosed]
    exact ⟨l, h⟩

end Ledger.Counts

/-- At each moment of a run there is a count, as long as the output does not fail. -/
theorem Conversation.Reaches.counts {start c : Conversation} (h : start.Reaches c)
    (hs : start.BetweenRequests)
    (hc : c.isClosed = false ∨ ∀ d, start.Reaches d → d.outputFault? = none) :
    ∃ l : Ledger, l.Counts start c := by
  refine h.invariant (fun d => ∃ l : Ledger, l.Counts start d) ⟨{}, ?_⟩ ?_ hc
  · refine { Ledger.Fits.at_start hs with settled := fun _ => rfl, atHand := fun rest hrest => ?_ }
    rcases hs with hs | hs
    · cases hs.symm.trans hrest
    · cases hs.symm.trans hrest
  · rintro d _ hf ⟨l, hl⟩
    exact hl.step hf

/-! ## The service -/

namespace Conversation

variable {start c : Conversation}

/-- A service that was had is not changed by having it again. -/
theorem repeat_serve_succ (hopen : start.isClosed = false) (more : Nat) :
    Nat.repeat (fun d => d.serve.2) (more + 1) start = start.run := by
  obtain ⟨_, _, hserve⟩ := serve_eq_run hopen
  induction more with
  | zero => exact congrArg Prod.snd hserve
  | succ more ih =>
    show (Nat.repeat (fun d => d.serve.2) (more + 1) start).serve.2 = start.run
    rw [ih, serve_of_closed start.isClosed_run]

/-- Where the output fails the run ends, with the counts and with what the output has taken as they
are. -/
theorem Reaches.counts_of_outputFault? (h : start.Reaches c) (hs : start.BetweenRequests)
    {text : String} (hf : c.outputFault? = some text) :
    start.run.session.phase = .closed (.error (.stream text)) ∧
      start.run.session.summary = c.session.summary ∧ start.run.sink = c.sink ∧
      ∃ (l : Ledger) (response : Bytes) (rest : Frame.Unwritten), l.Fits start c ∧
        c.session.phase = .responding rest ∧ l.written ++ rest.flatten = Frame.encode response ∧
        c.session.summary.skipped =
          start.session.summary.skipped + (l.responses ++ [response]).count [] := by
  obtain ⟨rest, hp⟩ := phase_of_outputFault? hf
  obtain ⟨l, hl⟩ := h.counts hs (.inl (isClosed_eq_false_of_responding hp))
  obtain ⟨response, hresponse, _, hskipped⟩ := hl.atHand rest hp
  have hrun : start.run = c.step := by
    rw [← h.run_eq, ← run_step, run_of_closed (isClosed_step_of_outputFault? hf)]
  rw [hrun, step_of_outputFault? hf]
  exact ⟨Session.phase_close .., Session.summary_close .., rfl, l, response, rest, hl.toFits, hp,
    hresponse, hskipped⟩

/-- What the output has taken at the end of a run is told by a ledger, whether it has failed or not;
if it has not, all of it was counted. -/
theorem exists_ledger_of_run (hs : start.BetweenRequests) :
    ∃ (l : Ledger) (c : Conversation), l.Fits start c ∧
      start.run.session.summary = c.session.summary ∧ start.run.sink = c.sink ∧
      ((∀ d, start.Reaches d → d.outputFault? = none) → l.written = [] ∧
        c.session.summary.skipped = start.session.summary.skipped + l.responses.count []) := by
  by_cases hfault : ∃ c text, start.Reaches c ∧ c.outputFault? = some text
  · obtain ⟨c, text, hc, hf⟩ := hfault
    obtain ⟨_, hsummary, hsink, l, _, _, hl, _⟩ := hc.counts_of_outputFault? hs hf
    refine ⟨l, c, hl, hsummary, hsink, fun hsteady => ?_⟩
    cases (hsteady c hc).symm.trans hf
  · have hsteady : ∀ c, start.Reaches c → c.outputFault? = none := fun c hc =>
      Option.eq_none_iff_forall_ne_some.2 fun text hf => hfault ⟨c, text, hc, hf⟩
    obtain ⟨l, hl⟩ := (reaches_run start).counts hs (.inr hsteady)
    obtain ⟨outcome, hclosed⟩ := start.phase_run
    have hwritten := hl.phase
    rw [hclosed] at hwritten
    exact ⟨l, _, hl.toFits, rfl, rfl, fun _ =>
      ⟨hwritten, hl.settled fun rest hrest => by cases hclosed.symm.trans hrest⟩⟩

end Conversation

/-- **What the counts say of the output.** Serve a new session any number of times, or not yet. It
counts the responses that the output has taken whole and was flushed after; behind them there may be
a part of one more. If the output has not failed, nothing else was taken, and as many requests are
counted as skipped as there are empty responses. If it has failed, the response that it failed in is
not counted; but if that response is empty, its request is counted as skipped. -/
theorem Conversation.serve_counts (r : Renderer) (source : Source) (sink : Sink) (files : Files)
    (runs : Nat) :
    let start : Conversation := ⟨{ renderer := r }, source, sink, files⟩
    let last := Nat.repeat (fun c => c.serve.2) runs start
    let summary := last.session.summary
    ∃ (responses : List Bytes) (part : Bytes),
      (∀ response ∈ responses, response.length ≤ Frame.longest) ∧
      last.sink.taken.toList =
        sink.taken.toList ++ responses.flatMap Frame.encode ++ part ∧
      last.sink.flushes = sink.flushes + summary.frames ∧
      responses.length = summary.frames ∧
      ((runs = 0 ∨ ∀ c, start.Reaches c → c.outputFault? = none) →
        part = [] ∧ summary.skipped = responses.count []) ∧
      ∀ c text, start.Reaches c → c.outputFault? = some text → runs ≠ 0 →
        last.session.phase = .closed (.error (.stream text)) ∧
        ∃ response rest, c.session.phase = .responding rest ∧
          part ++ rest.flatten = Frame.encode response ∧
          summary.skipped = (responses ++ [response]).count [] := by
  intro start last summary
  have hidle : start.BetweenRequests := .inl rfl
  cases runs with
  | zero =>
    refine ⟨[], [], nofun, by simp [last, start, Nat.repeat], rfl, rfl, fun _ => ⟨rfl, rfl⟩, ?_⟩
    intro _ _ _ _ hruns
    exact absurd rfl hruns
  | succ more =>
    have hlast : last = start.run := repeat_serve_succ rfl more
    obtain ⟨l, c, hl, hsummary, hsink, hall⟩ := exists_ledger_of_run hidle
    rw [← hlast] at hsummary hsink
    have hframes : summary.frames = l.responses.length := by
      show last.session.summary.frames = _
      rw [hsummary, hl.frames]
      exact Nat.zero_add _
    refine ⟨l.responses, l.written, hl.sendable, ?_, ?_, hframes.symm, ?_, ?_⟩
    · rw [hsink, hl.output]
    · rw [hframes, hsink, hl.flushes]
    · rintro (hruns | hsteady)
      · cases hruns
      · obtain ⟨hwritten, hskipped⟩ := hall hsteady
        rw [← hsummary] at hskipped
        exact ⟨hwritten, hskipped.trans (Nat.zero_add _)⟩
    · intro d text hd hf _
      obtain ⟨hphase, hsummary', hsink', l', response, rest, hl', hp, hresponse, hskipped⟩ :=
        hd.counts_of_outputFault? hidle hf
      rw [← hlast] at hphase hsummary' hsink'
      -- whichever moment it is, the output has taken the same
      obtain ⟨hresponses, hwritten⟩ := hl'.eq_of_output _ _ hl.sendable
        (by rw [← hsummary', hsummary, hl.frames]) (by rw [← hsink', hsink, hl.output])
      rw [hresponses, ← hsummary'] at hskipped
      rw [hwritten] at hresponse
      exact ⟨hphase, response, rest, hp, hresponse, hskipped.trans (Nat.zero_add _)⟩

/-- Output that takes nothing fails in its first response, which is empty: no response is counted,
but a request is counted as skipped. -/
theorem Conversation.skipped_without_response :
    let settings : Settings := { policy := .emptyFrame }
    let r : Renderer := ⟨settings, rfl, .memory .inkless, ⟨false, []⟩⟩
    let source : Source := ⟨[.bytes (Frame.encode [110, 111, 112, 101])]⟩
    let sink : Sink := { room := fun _ => .error "sink is full", flushing := fun _ => .ok () }
    let last := (Conversation.serve ⟨{ renderer := r }, source, sink, {}⟩).2
    last.session.phase.stage = .closed ∧ last.sink.taken = #[] ∧ last.sink.flushes = 0 ∧
      last.session.summary = ⟨0, 1⟩ ∧
      ¬last.session.summary.skipped ≤ last.session.summary.frames := by
  intro settings r source sink last
  let start : Conversation := ⟨{ renderer := r }, source, sink, {}⟩
  have hfault : (Nat.repeat step 4 start).outputFault? = some "sink is full" := by decide +kernel
  have hserve : start.serve = _ := (reaches_repeat 4 start).serve_of_outputFault? rfl hfault
  have hlast : last = (Nat.repeat step 4 start).step := congrArg Prod.snd hserve
  rw [hlast]
  decide +kernel

end StatusPanel
