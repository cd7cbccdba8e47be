import StatusPanel.Proofs.Ledger

/-!
# Requests and answers in turn

A session asks for input only when nothing is left to answer: as many whole responses have been
written as whole requests were read, and the output has been flushed after the last of them
(`flushed_of_stage`). What it asks for is the rest of the frame that has begun, or of its length, so
it never looks ahead (`length_taken_add_missing`). A reading that fails ends the session with the
answers that are there (`read_when_answered`).
-/

namespace StatusPanel

namespace Frame

/-! ## How far a frame reaches -/

/-- How many bytes there are in a frame that begins with the given ones, as far as they tell: its
length has to be read first. -/
def extent (begun : Bytes) : Nat :=
  if begun.length < lengthSize then lengthSize
  else lengthSize + Bytes.toLittleEndian (begun.take lengthSize)

theorem extent_of_length {taken : Bytes} (h : taken.length = lengthSize) (rest : Bytes) :
    extent (taken ++ rest) = lengthSize + Bytes.toLittleEndian taken := by
  unfold extent
  rw [if_neg (by rw [List.length_append]; omega), ← h, List.take_left]

theorem extent_littleEndian {length : Nat} (h : length ≤ longest) (rest : Bytes) :
    extent (Bytes.littleEndian lengthSize length ++ rest) = lengthSize + length := by
  rw [extent_of_length (Bytes.length_littleEndian ..),
    Bytes.toLittleEndian_littleEndian _ _ (Nat.lt_succ_of_le h)]

/-- Bytes that do not reach the end of their frame are no whole frame. -/
theorem not_parse_of_lt_extent {begun : Bytes} (h : begun.length < extent begun) (limit : Nat)
    (payload : Bytes) : (parse limit begun).1 ≠ .ok (some payload) := by
  intro hframe
  obtain ⟨hbytes, _, hlong⟩ := @eq_encode_of_parse limit begun payload (parse limit begun).2
    (Prod.ext hframe rfl)
  rw [hbytes, encode, List.append_assoc, extent_littleEndian hlong] at h
  simp only [List.length_append, Bytes.length_littleEndian] at h
  omega

/-- Whole frames and the beginning of another one. -/
theorem split_flatMap_encode {limit : Nat} {payloads : List Bytes} {rest : Bytes}
    (h : ∀ payload ∈ payloads, payload.length ≤ limit ∧ payload.length ≤ longest)
    (hrest : ∀ payload, (parse limit rest).1 ≠ .ok (some payload)) :
    split limit (payloads.flatMap encode ++ rest) = (payloads, rest) := by
  induction payloads with
  | nil => exact split_of_not_parse hrest
  | cons payload more ih =>
    obtain ⟨hlimit, hlong⟩ := h payload List.mem_cons_self
    rw [List.flatMap_cons, List.append_assoc, split_of_parse (parse_encode hlimit hlong _),
      ih fun other hother => h other (List.mem_cons_of_mem _ hother)]

/-- What is missing ends with the frame, or with its length. -/
theorem Progress.length_taken_add_missing {limit : Nat} {p : Progress} (h : p.Allowed limit) :
    p.taken.length + p.missing = extent p.taken := by
  cases p with
  | inLength taken short =>
    have hextent : extent taken = lengthSize := if_pos short
    show taken.length + (lengthSize - taken.length) = extent taken
    omega
  | inPayload length taken short =>
    simp only [Progress.taken, missing]
    rw [extent_littleEndian h.2, List.length_append, Bytes.length_littleEndian,
      Array.length_toList]
    omega

end Frame

namespace Conversation

/-! ## Output that is flushed -/

/-- Since the conversation was at `start` nothing was written, or the output has been flushed after
the last byte. -/
def Flushed (start c : Conversation) : Prop :=
  c.sink.taken = start.sink.taken ∨
    ∃ d resume, start.Reaches d ∧ d.session.next = .flush resume ∧ d.sink.flush.1 = .ok () ∧
      d.step.Reaches c ∧ d.sink.taken = c.sink.taken

variable {start c : Conversation}

/-- Nothing is written in a step that leaves the output alone. -/
theorem Flushed.step (h : start.Flushed c) (hsink : c.step.sink = c.sink) :
    start.Flushed c.step := by
  unfold Flushed
  rw [hsink]
  refine h.imp_right ?_
  rintro ⟨d, resume, hd, hnext, hflush, hc, htaken⟩
  exact ⟨d, resume, hd, hnext, hflush, .step hc, htaken⟩

/-- A request that is rendered is refused or begins to be answered. -/
theorem stage_rendered (s : Session) (files : Files) (payload : Bytes) :
    (s.rendered files payload).phase.stage = .closed ∨
      (s.rendered files payload).phase.stage = .responding := by
  obtain ⟨t, hconclude, _⟩ := s.rendered_eq_conclude files payload
  obtain ⟨_, _, hdecided⟩ := t.conclude_decided _
  rw [hconclude]
  rcases hdecided with ⟨outcome, hclosed⟩ | ⟨parts, _, hparts, _⟩
  · exact .inl (by rw [hclosed]; rfl)
  · exact .inr (by rw [hparts]; rfl)

/-- **No answer is withheld**: until a session responds to a request all that it has written is
flushed. -/
theorem flushed_of_stage (h : start.Reaches c)
    (hc : c.session.phase.stage = .awaitingRequest ∨ c.session.phase.stage = .rendering) :
    start.Flushed c := by
  induction h with
  | refl => exact .inl rfl
  | @step d hd ih =>
    cases hp : d.session.phase with
    | idle =>
      refine (ih (.inl (by rw [hp]; rfl))).step ?_
      rw [step_idle hp]
    | receiving p =>
      refine (ih (.inl (by rw [hp]; rfl))).step ?_
      rw [step_receiving hp]
    | rendering payload =>
      rw [step_rendering hp] at hc
      rcases stage_rendered d.session d.files payload with hstage | hstage
      · rw [hstage] at hc
        rcases hc with hc | hc <;> cases hc
      · rw [hstage] at hc
        rcases hc with hc | hc <;> cases hc
    | closed outcome =>
      rw [step_closed (by simp [isClosed, hp, Phase.stage]), hp] at hc
      rcases hc with hc | hc <;> cases hc
    | responding rest =>
      cases hf : d.outputFault? with
      | some text =>
        rw [step_of_outputFault? hf, Session.phase_close] at hc
        rcases hc with hc | hc <;> cases hc
      | none =>
        cases rest with
        | nil =>
          -- this is the flush after the last byte
          have hflush := flush_of_outputFault?_eq_none hp hf
          refine .inr ⟨d, d.session.flushed, hd, ?_, ?_, .refl, ?_⟩
          · simp only [Session.next, hp]
          · rw [hflush]
          · rw [step_flush hp, hflush]
        | cons part rest =>
          obtain ⟨count, hwrite⟩ := write_of_outputFault?_eq_none hp hf
          rw [step_write_taken hp hwrite] at hc
          rcases hc with hc | hc <;> cases hc

/-! ## Readings -/

/-- How many bytes of input the session is about to ask for. -/
def asksFor? (c : Conversation) : Option Nat :=
  match c.session.next with
  | .read most _ => some most
  | _ => none

theorem phase_of_asksFor? {most : Nat} (h : c.asksFor? = some most) :
    ∃ p, c.session.phase = .receiving p ∧ p.missing = most := by
  unfold asksFor? at h
  cases hp : c.session.phase with
  | receiving p =>
    simp only [Session.next, hp, Option.some.injEq] at h
    exact ⟨p, rfl, h⟩
  | idle => simp [Session.next, hp] at h
  | closed outcome => simp [Session.next, hp] at h
  | responding rest => cases rest <;> simp [Session.next, hp] at h
  | rendering payload =>
    simp only [Session.next, hp] at h
    cases hd : Document.read payload with
    | error fault => simp [hd] at h
    | ok d => cases hf : c.session.renderer.fontNeed <;> simp [hd, hf] at h

/-- A reading that fails closes the session with the same fault. -/
theorem step_of_failed {p : Frame.Progress} (hp : c.session.phase = .receiving p) {text : String}
    (hd : (c.source.read p.missing).1 = .failed text) :
    c.step = { c with
      session := c.session.close (.error (.stream text))
      source := (c.source.read p.missing).2 } := by
  rw [step_receiving hp, hd]
  rfl

end Conversation

/-- **Requests and answers take turns.** Whatever the input brings and whatever the output does,
whenever the session is about to read, what it has read so far is some whole requests and the
beginning of another frame, and what it has written is as many whole responses; the output has been
flushed after each of them, and so many frames are counted. It asks for what is missing of the frame
that has begun, or of its length, and not for a byte more. If that reading fails, the session ends
with this fault, and with these responses. -/
theorem Conversation.read_when_answered (r : Renderer) (source : Source) (files : Files)
    (sink : Sink) :
    let start : Conversation := ⟨{ renderer := r }, source, sink, files⟩
    ∀ c most, start.Reaches c → c.asksFor? = some most →
      let k := c.session.summary.frames
      let delivered := c.source.read most
      ∃ (consumed written : Bytes) (requests responses : List Bytes) (begun : Bytes),
        source.remaining = consumed ++ c.source.remaining ∧
        Frame.split r.settings.maxFrame consumed = (requests, begun) ∧ requests.length = k ∧
        c.sink.taken.toList = sink.taken.toList ++ written ∧
        Frame.split Frame.longest written = (responses, []) ∧ responses.length = k ∧
        start.Flushed c ∧ c.sink.flushes = sink.flushes + k ∧
        0 < most ∧ begun.length + most ≤ Frame.extent begun ∧
        c.step.source = delivered.2 ∧
        c.source.remaining = delivered.1.content ++ delivered.2.remaining ∧
        delivered.1.content.length ≤ most ∧
        ∀ text, delivered.1 = .failed text →
          start.serve.1 = .error (.stream text) ∧
          start.serve.2.session.phase.stage = .closed ∧
          start.serve.2.session.summary.frames = k ∧ start.serve.2.sink = c.sink := by
  intro start c most hc hmost
  obtain ⟨p, hp, rfl⟩ := phase_of_asksFor? hmost
  have hopen : c.isClosed = false := isClosed_eq_false_of_phase hp nofun
  obtain ⟨l, hl⟩ := hc.fits (.inl rfl) (.inl hopen)
  have hphase := hl.phase
  rw [hp] at hphase
  obtain ⟨hlength, hread, hallowed, hwritten⟩ := hphase
  have hextent := Frame.Progress.length_taken_add_missing hallowed
  have hframes : c.session.summary.frames = l.responses.length :=
    hl.frames.trans (Nat.zero_add _)
  obtain ⟨hremaining, hcontent⟩ := c.source.remaining_read p.missing
  refine ⟨l.requests.flatMap Frame.encode ++ p.taken, l.responses.flatMap Frame.encode,
    l.requests, l.responses, p.taken, ?_, ?_, ?_, ?_, ?_, hframes.symm, ?_, ?_,
    p.missing_pos, Nat.le_of_eq hextent, ?_, hremaining, hcontent, ?_⟩
  · rw [← hread]
    exact hl.input
  · refine Frame.split_flatMap_encode hl.whole (Frame.not_parse_of_lt_extent ?_ _)
    have := p.missing_pos
    omega
  · rw [hframes, hlength]
  · rw [hl.output, hwritten, List.append_nil]
  · have hsplit := @Frame.split_flatMap_encode Frame.longest l.responses []
      (fun response hmem => ⟨hl.sendable response hmem, hl.sendable response hmem⟩) nofun
    rwa [List.append_nil] at hsplit
  · exact flushed_of_stage hc (.inl (by rw [hp]; rfl))
  · rw [hframes]
    exact hl.flushes
  · rw [step_receiving hp]
  · intro text hfailed
    have hstep := step_of_failed hp hfailed
    rw [hc.serve_of_step rfl (by rw [hstep]; exact Session.phase_close ..), hstep]
    exact ⟨rfl, rfl, rfl, rfl⟩

/-- The first request is refused and answered with an empty frame; reading fails inside the second
one, before which its length came in two pieces. -/
theorem Conversation.read_when_answered_cut_off :
    let settings : Settings := { width := 1, height := 1, policy := .emptyFrame }
    let r : Renderer := ⟨settings, rfl, .memory .inkless, ⟨false, []⟩⟩
    let source : Source :=
      ⟨[.bytes [1, 0, 0, 0, 63, 2], .interrupted, .bytes [0, 0, 0, 91], .failed "gone",
        .bytes [93]]⟩
    let start : Conversation := ⟨{ renderer := r }, source, .unlimited, {}⟩
    start.serve.1 = .error (.stream "gone") ∧ start.serve.2.session.summary.frames = 1 ∧
      start.serve.2.sink.taken.toList = Frame.encode [] ∧ start.serve.2.sink.flushes = 1 := by
  intro settings r source start
  -- a length, a payload, its answer, the flush; then four readings of the second frame
  have hmost : (Nat.repeat step 10 start).asksFor? = some 1 := by decide +kernel
  obtain ⟨_, _, _, _, _, _, _, _, _, _, _, _, _, _, _, _, _, _, hfailed⟩ :=
    read_when_answered r source {} .unlimited _ 1 (reaches_repeat 10 start) hmost
  obtain ⟨hresult, _, hframes, hsink⟩ := hfailed "gone" (by decide +kernel)
  rw [hresult, hframes, hsink]
  refine ⟨rfl, ?_⟩
  decide +kernel

end StatusPanel
