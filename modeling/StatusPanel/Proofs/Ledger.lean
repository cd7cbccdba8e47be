import StatusPanel.Proofs.Runs

/-!
# The ledger of a conversation

At each moment of a run, what was taken from the input is some whole requests and a part of the next
one, and what the output has taken is as many whole responses and a part of the next one. A ledger
names these requests, responses and parts, and `Ledger.Fits` says how they agree with the counters
and the phase of the session. A step keeps a ledger that fits, unless the output fails
(`Ledger.Fits.step`); so a run has one as long as it goes on, and to its end if the output never
fails (`Reaches.fits`).
-/

namespace StatusPanel

/-! ## Bytes that are read -/

namespace Frame.Progress

/-- The bytes of the frame that have been read. -/
def taken : Progress → Bytes
  | .inLength taken _ => taken
  | .inPayload length taken _ => Bytes.littleEndian lengthSize length ++ taken.toList

/-- A length that has been read is one that is allowed. -/
def Allowed (limit : Nat) : Progress → Prop
  | .inLength .. => True
  | .inPayload length .. => length ≤ limit ∧ length ≤ longest

/-- What a delivery brings comes behind what was there; a payload is complete when all bytes of its
frame are there. -/
theorem taken_advance {limit : Nat} {p : Progress} (hp : p.Allowed limit) (d : Delivery)
    (h : d.content.length ≤ p.missing) :
    match p.advance limit d with
    | .more q => q.taken = p.taken ++ d.content ∧ q.Allowed limit
    | .complete frame => ∀ payload, frame = .ok (some payload) →
        encode payload = p.taken ++ d.content ∧ payload.length ≤ limit ∧
          payload.length ≤ longest := by
  cases d with
  | interrupted => exact ⟨(List.append_nil _).symm, hp⟩
  | failed text =>
    intro payload heq
    cases heq
  | ended =>
    obtain ⟨frame, hframe, hnone⟩ := p.advance_ended limit
    rw [hframe]
    exact fun payload heq => absurd heq (hnone payload)
  | bytes piece =>
    simp only [Delivery.content] at h ⊢
    cases p with
    | inLength taken short =>
      simp only [missing] at h
      simp only [advance, Progress.taken]
      by_cases hlt : (taken ++ piece).length < lengthSize
      · rw [dif_pos hlt]
        exact ⟨rfl, trivial⟩
      · simp only [dif_neg hlt]
        have hlen : (taken ++ piece).length = lengthSize := by
          rw [List.length_append] at hlt ⊢
          omega
        have hdigits := Bytes.littleEndian_toLittleEndian (taken ++ piece)
        have hlong := Bytes.toLittleEndian_lt (taken ++ piece)
        rw [hlen] at hdigits hlong
        generalize Bytes.toLittleEndian (taken ++ piece) = length at hdigits hlong
        unfold beginPayload
        by_cases hlimit : limit < length
        · simp only [if_pos hlimit]
          intro payload heq
          cases heq
        · simp only [if_neg hlimit]
          by_cases hpos : 0 < length
          · simp only [dif_pos hpos]
            refine ⟨?_, Nat.le_of_not_lt hlimit, Nat.le_of_lt_succ hlong⟩
            exact (List.append_nil _).trans hdigits
          · simp only [dif_neg hpos]
            intro payload heq
            cases heq
            rw [Nat.eq_zero_of_not_pos hpos] at hdigits
            exact ⟨(List.append_nil _).trans hdigits, Nat.zero_le _, Nat.zero_le _⟩
    | inPayload length taken short =>
      have happ : (taken ++ piece).toList = taken.toList ++ piece := Array.toList_appendList
      have hsize : (taken ++ piece).size = taken.size + piece.length := by
        rw [← Array.length_toList, happ, List.length_append, Array.length_toList]
      simp only [missing] at h
      simp only [advance, Progress.taken]
      by_cases hlt : (taken ++ piece).size < length
      · simp only [dif_pos hlt, happ]
        exact ⟨(List.append_assoc ..).symm, hp⟩
      · simp only [dif_neg hlt, happ]
        intro payload heq
        cases heq
        have hlen : (taken.toList ++ piece).length = length := by
          rw [← happ, Array.length_toList]
          omega
        unfold encode
        rw [hlen]
        exact ⟨(List.append_assoc ..).symm, hp⟩

end Frame.Progress

/-! ## What becomes of a request -/

theorem Renderer.settings_of_receive {r next : Renderer} {path : String}
    {contents : Except String Bytes} {font : Font} {e : Event}
    (h : r.receive path contents = .ok (font, next, e)) : next.settings = r.settings := by
  unfold Renderer.receive at h
  cases hs : r.shelf.receive path contents with
  | error fault =>
    rw [hs] at h
    cases h
  | ok shelved =>
    rw [hs] at h
    cases h
    rfl

/-- That a font file was read is told, but is no stage of a session. -/
theorem Renderer.stage?_of_receive {r next : Renderer} {path : String}
    {contents : Except String Bytes} {font : Font} {e : Event}
    (h : r.receive path contents = .ok (font, next, e)) : e.stage? = none := by
  unfold Renderer.receive Shelf.receive at h
  cases hs : ShelvedFont.ofFile path contents with
  | error fault =>
    rw [hs] at h
    cases h
  | ok shelved =>
    rw [hs] at h
    cases h
    split <;> rfl

theorem Renderer.settings_renderPayload (r : Renderer) (files : Files) (payload : Bytes) :
    (r.renderPayload files payload).2.settings = r.settings := by
  unfold renderPayload
  cases Document.read payload with
  | error fault => rfl
  | ok d =>
    simp only [render]
    cases r.fontNeed with
    | ready font => rfl
    | file path =>
      dsimp only
      cases hr : r.receive path ((files.read path).mapError FileFault.text) with
      | error fault => rfl
      | ok loaded => exact settings_of_receive hr

/-- The session has closed, or a whole response is yet to be written. -/
def Phase.Decided (p : Phase) : Prop :=
  (∃ outcome, p = .closed outcome) ∨
    ∃ parts response, p = .responding parts ∧ (∀ part ∈ parts, part ≠ []) ∧
      parts.flatten = Frame.encode response ∧ response.length ≤ Frame.longest

namespace Session

/-- A session that is to send a response responds with it, or closes. -/
theorem respond_decided (s : Session) (response : Bytes) :
    (s.respond response).renderer = s.renderer ∧ (s.respond response).summary = s.summary ∧
      (s.respond response).phase.Decided := by
  rcases s.respond_cases response with ⟨hle, parts, hparts, hflat, hne⟩ | ⟨_, hrefused⟩
  · rw [hparts]
    exact ⟨rfl, rfl, .inr ⟨parts, response, rfl, hne, hflat, hle⟩⟩
  · rw [hrefused]
    exact ⟨rfl, rfl, .inl ⟨_, rfl⟩⟩

/-- What becomes of a request is decided when its picture is there, or is known not to be. No
request is counted yet. -/
theorem conclude_decided (s : Session) (picture : Except Fault Picture) :
    (s.conclude picture).renderer = s.renderer ∧
      (s.conclude picture).summary.frames = s.summary.frames ∧
      (s.conclude picture).phase.Decided := by
  cases picture with
  | ok p =>
    obtain ⟨hrenderer, hsummary, hphase⟩ := s.respond_decided (Png.write p)
    exact ⟨hrenderer, congrArg Summary.frames hsummary, hphase⟩
  | error fault =>
    simp only [conclude]
    split
    · obtain ⟨hrenderer, hsummary, hphase⟩ := respond_decided
        { s.tell (.skipped s.summary.frames fault) with
          summary.skipped := s.summary.skipped + 1 } []
      exact ⟨hrenderer, (congrArg Summary.frames hsummary).trans rfl, hphase⟩
    · exact ⟨rfl, rfl, .inl ⟨_, rfl⟩⟩

/-- Rendering a request comes to a conclusion about the picture that the renderer has for it.
Besides the renderer only what there is to tell has changed until then, and no stage is entered. -/
theorem rendered_eq_conclude (s : Session) (files : Files) (payload : Bytes) :
    ∃ t : Session,
      s.rendered files payload = t.conclude (s.renderer.renderPayload files payload).1 ∧
        t.renderer = (s.renderer.renderPayload files payload).2 ∧ t.phase = s.phase ∧
        t.summary = s.summary ∧ t.stages = s.stages := by
  unfold rendered Renderer.renderPayload
  cases Document.read payload with
  | error fault => exact ⟨s, rfl, rfl, rfl, rfl, rfl⟩
  | ok d =>
    dsimp only
    unfold Renderer.render
    cases s.renderer.fontNeed with
    | ready font => exact ⟨s, rfl, rfl, rfl, rfl, rfl⟩
    | file path =>
      simp only [drawLoaded]
      cases hr : s.renderer.receive path ((files.read path).mapError FileFault.text) with
      | error fault => exact ⟨s, rfl, rfl, rfl, rfl, rfl⟩
      | ok loaded =>
        obtain ⟨font, renderer, e⟩ := loaded
        refine ⟨{ s.tell e with renderer }, rfl, rfl, rfl, rfl, ?_⟩
        show (s.tell e).stages = s.stages
        rw [stages_tell, Renderer.stage?_of_receive hr]
        exact List.append_nil _

end Session

/-! ## Failing output -/

namespace Conversation

/-- What the output is about to fail with: it will take nothing of what it is offered next, or will
not be flushed. -/
def outputFault? (c : Conversation) : Option String :=
  match c.session.next with
  | .write part _ =>
    match (c.sink.write part).1 with
    | .error text => some text
    | .ok 0 => some Frame.nothingTaken
    | .ok (_ + 1) => none
  | .flush _ =>
    match c.sink.flush.1 with
    | .error text => some text
    | .ok () => none
  | _ => none

section

variable {c : Conversation}

theorem outputFault?_flush (h : c.session.phase = .responding []) :
    c.outputFault? = match c.sink.flush.1 with
      | .error text => some text
      | .ok () => none := by
  simp only [outputFault?, Session.next, h]

theorem outputFault?_write {part : Bytes} {rest : Frame.Unwritten}
    (h : c.session.phase = .responding (part :: rest)) :
    c.outputFault? = match (c.sink.write part).1 with
      | .error text => some text
      | .ok 0 => some Frame.nothingTaken
      | .ok (_ + 1) => none := by
  simp only [outputFault?, Session.next, h]

/-- Output that does not fail takes something. -/
theorem write_of_outputFault?_eq_none {part : Bytes} {rest : Frame.Unwritten}
    (h : c.session.phase = .responding (part :: rest)) (hf : c.outputFault? = none) :
    ∃ count, c.sink.write part =
      (.ok (count + 1), { c.sink with taken := c.sink.taken ++ part.take (count + 1) }) := by
  rw [outputFault?_write h] at hf
  rcases c.sink.write_cases part with ⟨text, hwrite⟩ | ⟨_ | count, hwrite⟩
  · rw [hwrite] at hf
    cases hf
  · rw [hwrite] at hf
    cases hf
  · exact ⟨count, hwrite⟩

theorem flush_of_outputFault?_eq_none (h : c.session.phase = .responding [])
    (hf : c.outputFault? = none) :
    c.sink.flush = (.ok (), { c.sink with flushes := c.sink.flushes + 1 }) := by
  rw [outputFault?_flush h] at hf
  rcases c.sink.flush_cases with ⟨text, hflush⟩ | hflush
  · rw [hflush] at hf
    cases hf
  · exact hflush

/-- Only a conversation that is responding depends on its output. -/
theorem phase_of_outputFault? {text : String} (h : c.outputFault? = some text) :
    ∃ rest, c.session.phase = .responding rest := by
  unfold outputFault? at h
  cases hp : c.session.phase with
  | responding rest => exact ⟨rest, rfl⟩
  | idle => simp [Session.next, hp] at h
  | receiving p => simp [Session.next, hp] at h
  | closed outcome => simp [Session.next, hp] at h
  | rendering payload =>
    simp only [Session.next, hp] at h
    cases hd : Document.read payload with
    | error fault => simp [hd] at h
    | ok d => cases hf : c.session.renderer.fontNeed <;> simp [hd, hf] at h

/-- Where the output fails the session closes, and the output is left as it was. -/
theorem step_of_outputFault? {text : String} (h : c.outputFault? = some text) :
    c.step = { c with session := c.session.close (.error (.stream text)) } := by
  obtain ⟨rest, hp⟩ := phase_of_outputFault? h
  cases rest with
  | nil =>
    rw [outputFault?_flush hp] at h
    rw [step_flush hp]
    rcases c.sink.flush_cases with ⟨text', hflush⟩ | hflush
    · rw [hflush] at h ⊢
      cases h
      rfl
    · rw [hflush] at h
      cases h
  | cons part rest =>
    rw [outputFault?_write hp] at h
    rw [step_write hp]
    rcases c.sink.write_cases part with ⟨text', hwrite⟩ | ⟨count, hwrite⟩
    · rw [hwrite] at h ⊢
      cases h
      rfl
    · rw [hwrite] at h ⊢
      cases count with
      | zero =>
        cases h
        simp [Session.written, Frame.Unwritten.answered]
      | succ count => cases h

theorem isClosed_step_of_outputFault? {text : String} (h : c.outputFault? = some text) :
    c.step.isClosed = true := by
  rw [step_of_outputFault? h]
  simp [isClosed, Phase.stage]

end

/-- **What steps keep while the output does not fail** is there at each moment of a run: as long as
the session goes on, and to the end if the output never fails. -/
theorem Reaches.invariant {start c : Conversation} (h : start.Reaches c)
    (Kept : Conversation → Prop) (base : Kept start)
    (next : ∀ d, start.Reaches d → d.outputFault? = none → Kept d → Kept d.step)
    (hc : c.isClosed = false ∨ ∀ d, start.Reaches d → d.outputFault? = none) : Kept c := by
  induction h with
  | refl => exact base
  | @step d hd ih =>
    have hfault : d.outputFault? = none := by
      rcases hc with hopen | hsteady
      · cases hf : d.outputFault? with
        | none => rfl
        | some text =>
          rw [isClosed_step_of_outputFault? hf] at hopen
          cases hopen
      · exact hsteady d hd
    refine next d hd hfault (ih ?_)
    refine hc.imp_left fun hopen => ?_
    cases hclosed : d.isClosed with
    | false => rfl
    | true =>
      -- a session that has closed stays so
      rw [step_closed hclosed] at hopen
      exact hclosed.symm.trans hopen

end Conversation

/-- The session is about to read a request. -/
def Conversation.BetweenRequests (c : Conversation) : Prop :=
  c.session.phase = .idle ∨ c.session.phase = .receiving .start

/-! ## Ledgers -/

/-- What a conversation has taken and given: the requests that were read whole, the responses that
were written whole and flushed, and what was read and written after these. -/
structure Ledger where
  requests : List Bytes := []
  read : Bytes := []
  responses : List Bytes := []
  written : Bytes := []

/-- How the entries of a ledger agree with a phase. -/
def Ledger.At (l : Ledger) (limit : Nat) : Phase → Prop
  | .idle => l.requests.length = l.responses.length ∧ l.read = [] ∧ l.written = []
  | .receiving p =>
    l.requests.length = l.responses.length ∧ l.read = p.taken ∧ p.Allowed limit ∧ l.written = []
  | .rendering _ => l.requests.length = l.responses.length + 1 ∧ l.read = [] ∧ l.written = []
  | .responding rest =>
    l.requests.length = l.responses.length + 1 ∧ l.read = [] ∧ (∀ part ∈ rest, part ≠ []) ∧
      ∃ response, l.written ++ rest.flatten = Frame.encode response ∧
        response.length ≤ Frame.longest
  | .closed _ => l.written = []

/-- The ledger tells what has been read and written since the conversation was at `start`. -/
structure Ledger.Fits (l : Ledger) (start c : Conversation) : Prop where
  settings : c.session.renderer.settings = start.session.renderer.settings
  whole : ∀ request ∈ l.requests,
    request.length ≤ start.session.renderer.settings.maxFrame ∧ request.length ≤ Frame.longest
  sendable : ∀ response ∈ l.responses, response.length ≤ Frame.longest
  input : start.source.remaining =
    l.requests.flatMap Frame.encode ++ l.read ++ c.source.remaining
  output : c.sink.taken.toList =
    start.sink.taken.toList ++ l.responses.flatMap Frame.encode ++ l.written
  frames : c.session.summary.frames = start.session.summary.frames + l.responses.length
  flushes : c.sink.flushes = start.sink.flushes + l.responses.length
  phase : l.At start.session.renderer.settings.maxFrame c.session.phase

namespace Ledger.Fits

variable {l : Ledger} {start c : Conversation}

/-- Nothing has been read or written at the start. -/
theorem at_start (h : start.BetweenRequests) : Fits {} start start where
  settings := rfl
  whole := nofun
  sendable := nofun
  input := rfl
  output := by simp
  frames := rfl
  flushes := rfl
  phase := by
    rcases h with h | h
    · rw [h]
      exact ⟨rfl, rfl, rfl⟩
    · rw [h]
      exact ⟨rfl, rfl, trivial, rfl⟩

/-- Another piece of the request has been read, or the request is complete, or there is none. -/
theorem step_receiving (h : l.Fits start c) {p : Frame.Progress}
    (hp : c.session.phase = .receiving p) : ∃ l' : Ledger, l'.Fits start c.step := by
  have hphase := h.phase
  rw [hp] at hphase
  obtain ⟨hlength, hread, hallowed, hwritten⟩ := hphase
  obtain ⟨hremaining, hmost⟩ := c.source.remaining_read p.missing
  have hadvance := Frame.Progress.taken_advance hallowed _ hmost
  have hinput := h.input
  rw [hremaining, hread, ← List.append_assoc, List.append_assoc (l.requests.flatMap _)] at hinput
  rw [Conversation.step_receiving hp]
  simp only [Session.deliver]
  rw [h.settings]
  generalize c.source.read p.missing = delivered at hinput hadvance
  cases ha : p.advance start.session.renderer.settings.maxFrame delivered.1 with
  | more q =>
    rw [ha] at hadvance
    obtain ⟨htaken, hq⟩ := hadvance
    rw [← htaken] at hinput
    exact ⟨{ l with read := q.taken },
      { h with input := hinput, phase := ⟨hlength, rfl, hq, hwritten⟩ }⟩
  | complete frame =>
    rw [ha] at hadvance
    have closed (outcome : Except Fault Unit) :
        Fits { l with read := p.taken ++ delivered.1.content } start
          { c with session := c.session.close outcome, source := delivered.2 } :=
      { h with
        settings := by simpa using h.settings
        input := hinput
        frames := by simpa using h.frames
        phase := by simpa [At] using hwritten }
    rcases frame with fault | _ | payload
    · exact ⟨_, closed (.error fault)⟩
    · exact ⟨_, closed (.ok ())⟩
    · obtain ⟨hframe, hfits⟩ := hadvance payload rfl
      rw [← hframe] at hinput
      refine ⟨{ l with requests := l.requests ++ [payload], read := [] }, { h with
        whole := ?_
        input := ?_
        phase := ⟨?_, rfl, hwritten⟩ }⟩
      · exact List.forall_mem_append.2 ⟨h.whole, List.forall_mem_singleton.2 hfits⟩
      · simpa using hinput
      · simp [hlength]

/-- The request is refused, or a response begins. -/
theorem step_rendering (h : l.Fits start c) {payload : Bytes}
    (hp : c.session.phase = .rendering payload) : l.Fits start c.step := by
  have hphase := h.phase
  rw [hp] at hphase
  obtain ⟨hlength, hread, hwritten⟩ := hphase
  rw [Conversation.step_rendering hp]
  obtain ⟨t, hconclude, ht, _, hsummary, _⟩ := c.session.rendered_eq_conclude c.files payload
  have hsettings : t.renderer.settings = c.session.renderer.settings := by
    rw [ht, Renderer.settings_renderPayload]
  obtain ⟨hrenderer, hframes, hdecided⟩ := t.conclude_decided _
  rw [hconclude]
  refine { h with settings := ?_, frames := ?_, phase := ?_ }
  · exact (congrArg Renderer.settings hrenderer).trans (hsettings.trans h.settings)
  · exact hframes.trans ((congrArg Summary.frames hsummary).trans h.frames)
  · dsimp only
    rcases hdecided with ⟨outcome, hclosed⟩ | ⟨parts, response, hparts, hne, hflat, hle⟩
    · rw [hclosed]
      exact hwritten
    · rw [hparts]
      refine ⟨hlength, hread, hne, response, ?_, hle⟩
      rw [hwritten, hflat, List.nil_append]

/-- Some of the response is written. -/
theorem step_write (h : l.Fits start c) {part : Bytes} {rest : Frame.Unwritten}
    (hp : c.session.phase = .responding (part :: rest)) (hf : c.outputFault? = none) :
    ∃ l' : Ledger, l'.Fits start c.step := by
  have hphase := h.phase
  rw [hp] at hphase
  obtain ⟨hlength, hread, hne, response, hresponse, hle⟩ := hphase
  obtain ⟨count, hwrite⟩ := Conversation.write_of_outputFault?_eq_none hp hf
  rw [Conversation.step_write_taken hp hwrite]
  refine ⟨{ l with written := l.written ++ part.take (count + 1) }, { h with
    output := ?_
    phase := ⟨hlength, hread, ?_, response, ?_, hle⟩ }⟩
  · rw [Array.toList_appendList, h.output, List.append_assoc]
  · exact Frame.Unwritten.ne_nil_of_mem_advance fun p hp => hne p (List.mem_cons_of_mem _ hp)
  · rw [List.append_assoc, Frame.Unwritten.take_append_advance]
    exact hresponse

/-- The response is complete. -/
theorem step_flush (h : l.Fits start c) (hp : c.session.phase = .responding [])
    (hf : c.outputFault? = none) : ∃ l' : Ledger, l'.Fits start c.step := by
  have hphase := h.phase
  rw [hp] at hphase
  obtain ⟨hlength, hread, _, response, hresponse, hle⟩ := hphase
  rw [Conversation.step_flush hp, Conversation.flush_of_outputFault?_eq_none hp hf]
  refine ⟨{ l with responses := l.responses ++ [response], written := [] }, { h with
    sendable := ?_
    output := ?_
    frames := ?_
    flushes := ?_
    phase := ⟨?_, hread, trivial, rfl⟩ }⟩
  · exact List.forall_mem_append.2 ⟨h.sendable, List.forall_mem_singleton.2 hle⟩
  · rw [List.flatten_nil, List.append_nil] at hresponse
    rw [h.output, hresponse]
    simp
  · simp [Session.flushed, Session.awaitRequest, h.frames, Nat.add_assoc]
  · simp [h.flushes, Nat.add_assoc]
  · simp [hlength]

/-- **A step keeps the books**, unless the output fails. -/
theorem step (h : l.Fits start c) (hf : c.outputFault? = none) :
    ∃ l' : Ledger, l'.Fits start c.step := by
  cases hp : c.session.phase with
  | idle =>
    have hphase := h.phase
    rw [hp] at hphase
    obtain ⟨hlength, hread, hwritten⟩ := hphase
    rw [Conversation.step_idle hp]
    exact ⟨l, { h with phase := ⟨hlength, hread, trivial, hwritten⟩ }⟩
  | receiving p => exact h.step_receiving hp
  | rendering payload => exact ⟨l, h.step_rendering hp⟩
  | responding rest =>
    cases rest with
    | nil => exact h.step_flush hp hf
    | cons part rest => exact h.step_write hp hf
  | closed outcome =>
    rw [Conversation.step_closed (by simp [Conversation.isClosed, hp, Phase.stage])]
    exact ⟨l, h⟩

end Ledger.Fits

/-- **A run has its books**: as long as the session goes on, and to the end if the output never
fails. -/
theorem Conversation.Reaches.fits {start c : Conversation} (h : start.Reaches c)
    (hs : start.BetweenRequests)
    (hc : c.isClosed = false ∨ ∀ d, start.Reaches d → d.outputFault? = none) :
    ∃ l : Ledger, l.Fits start c := by
  refine h.invariant (fun d => ∃ l : Ledger, l.Fits start d) ⟨{}, Ledger.Fits.at_start hs⟩ ?_ hc
  rintro d _ hfault ⟨l, hl⟩
  exact hl.step hfault

end StatusPanel
