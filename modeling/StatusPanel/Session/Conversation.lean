import StatusPanel.Session.Basic
import StatusPanel.Stream.Sink

/-!
# Conversations

A session together with the input that it reads, the output that it writes and the files around it.
A conversation comes to its end, because each step uses up input or brings the request at hand
nearer to its answer (`rank_step`).
-/

namespace StatusPanel

/-- A session and its surroundings. -/
structure Conversation where
  session : Session
  source : Source
  sink : Sink
  files : Files := {}

/-- How far a phase is from the next reading. -/
def Phase.rank : Phase → Nat × Nat
  | .idle => (3, 0)
  | .rendering _ => (3, 0)
  | .responding rest => (2, rest.size)
  | .receiving _ => (1, 0)
  | .closed _ => (0, 0)

namespace Session

@[simp] theorem phase_enter (s : Session) (p : Phase) : (s.enter p).phase = p := rfl

@[simp] theorem phase_close (s : Session) (outcome : Except Fault Unit) :
    (s.close outcome).phase = .closed outcome := by
  unfold close
  split <;> rfl

theorem rank_respond (s : Session) (response : Bytes) : (s.respond response).phase.rank.1 < 3 := by
  unfold respond
  split <;> simp [Phase.rank]

theorem rank_conclude (s : Session) (picture : Except Fault Picture) :
    (s.conclude picture).phase.rank.1 < 3 := by
  unfold conclude
  split
  · exact rank_respond ..
  · split
    · exact rank_respond ..
    · simp [Phase.rank]

theorem rank_drawLoaded (s : Session) (d : Document) (path : String)
    (contents : Except String Bytes) : (s.drawLoaded d path contents).phase.rank.1 < 3 := by
  unfold drawLoaded
  split <;> exact rank_conclude ..

/-- At the end of the input a session closes. -/
theorem deliver_ended (s : Session) (p : Frame.Progress) :
    (s.deliver p .ended).phase.rank = (0, 0) := by
  obtain ⟨frame, hf, hn⟩ := p.advance_ended s.renderer.settings.maxFrame
  unfold deliver
  rw [hf]
  match frame, hn with
  | .error fault, _ => simp [received, Phase.rank]
  | .ok none, _ => simp [received, Phase.rank]
  | .ok (some payload), hn => exact absurd rfl (hn payload)

theorem rank_flushed (s : Session) (answer : Except String Unit) :
    (s.flushed answer).phase.rank.1 < 2 := by
  unfold flushed
  split
  · exact show 1 < 2 by decide
  · simp [Phase.rank]

theorem rank_written (s : Session) (part : Bytes) (rest : Frame.Unwritten)
    (answer : Except String Nat) :
    Prod.Lex (· < ·) (· < ·) (s.written (part :: rest) answer).phase.rank
      (Phase.responding (part :: rest)).rank := by
  unfold written
  split
  · next h => exact Prod.Lex.right _ (Frame.Unwritten.size_answered h)
  · exact Prod.Lex.left _ _ (show 0 < 2 by decide)

end Session

namespace Conversation

/-- Gives the session what it needs next. -/
def step (c : Conversation) : Conversation :=
  match c.session.next with
  | .go session => { c with session }
  | .read most resume =>
    let (d, source) := c.source.read most
    { c with session := resume d, source }
  | .load path resume =>
    { c with session := resume ((c.files.read path).mapError FileFault.text) }
  | .write part resume =>
    let (answer, sink) := c.sink.write part
    { c with session := resume answer, sink }
  | .flush resume =>
    let (answer, sink) := c.sink.flush
    { c with session := resume answer, sink }
  | .stop => c

/-- Has the session ended? -/
def isClosed (c : Conversation) : Bool :=
  c.session.phase.stage = .closed

/-- What a conversation still has before it: input, and the way of a request to its answer. -/
def rank (c : Conversation) : Nat × Nat × Nat :=
  (c.source.size, c.session.phase.rank)

/-- Smaller at the first place where two ranks differ. -/
def Below : Nat × Nat × Nat → Nat × Nat × Nat → Prop :=
  Prod.Lex (· < ·) (Prod.Lex (· < ·) (· < ·))

theorem rank_step (c : Conversation) (h : c.isClosed = false) : Below c.step.rank c.rank := by
  have same {s : Session} (hs : Prod.Lex (· < ·) (· < ·) s.phase.rank c.session.phase.rank) :
      Below (c.source.size, s.phase.rank) c.rank := Prod.Lex.right _ hs
  match hp : c.session.phase with
  | .idle =>
    have hn : c.session.next = .go c.session.awaitRequest := by simp [Session.next, hp]
    simp only [step, hn]
    exact same (by rw [hp]; exact Prod.Lex.left _ _ (show 1 < 3 by decide))
  | .receiving p =>
    have hn : c.session.next = .read p.missing (c.session.deliver p) := by
      simp [Session.next, hp]
    simp only [step, hn, rank]
    by_cases hd : (c.source.read p.missing).1 = .ended
    · rw [hd, Session.deliver_ended, hp]
      rcases Nat.lt_or_eq_of_le (c.source.size_read_le p.missing) with hlt | heq
      · exact Prod.Lex.left _ _ hlt
      · rw [heq]
        exact Prod.Lex.right _ (Prod.Lex.left _ _ (by simp))
    · exact Prod.Lex.left _ _ (c.source.size_read_lt p.missing_pos hd)
  | .rendering payload =>
    have three {s : Session} (hs : s.phase.rank.1 < 3) :
        Prod.Lex (· < ·) (· < ·) s.phase.rank c.session.phase.rank := by
      rw [hp]
      exact Prod.Lex.left _ _ hs
    match hr : Document.read payload with
    | .error fault =>
      have hn : c.session.next = .go (c.session.conclude (.error fault)) := by
        simp [Session.next, hp, hr]
      simp only [step, hn]
      exact same (three (Session.rank_conclude ..))
    | .ok d =>
      match hf : c.session.renderer.fontNeed with
      | .ready font =>
        have hn : c.session.next = .go (c.session.conclude (c.session.renderer.draw font d)) := by
          simp [Session.next, hp, hr, hf]
        simp only [step, hn]
        exact same (three (Session.rank_conclude ..))
      | .file path =>
        have hn : c.session.next = .load path (c.session.drawLoaded d path) := by
          simp [Session.next, hp, hr, hf]
        simp only [step, hn]
        exact same (three (Session.rank_drawLoaded ..))
  | .responding [] =>
    have hn : c.session.next = .flush c.session.flushed := by simp [Session.next, hp]
    simp only [step, hn]
    exact same (by rw [hp]; exact Prod.Lex.left _ _ (Session.rank_flushed ..))
  | .responding (part :: rest) =>
    have hn : c.session.next = .write part (c.session.written (part :: rest)) := by
      simp [Session.next, hp]
    simp only [step, hn]
    exact same (by rw [hp]; exact Session.rank_written ..)
  | .closed outcome => simp [isClosed, hp, Phase.stage] at h

/-- Goes on until the session has ended. -/
def run (c : Conversation) : Conversation :=
  if h : c.isClosed then c
  else
    have decreases := c.rank_step (by simpa using h)
    run c.step
termination_by c.rank
decreasing_by exact decreases

/-- Serves the requests of the input. A session that has ended does nothing more. -/
def serve (c : Conversation) : Except Fault Summary × Conversation :=
  if c.isClosed then (.ok c.session.summary, c)
  else
    let c := c.run
    match c.session.phase with
    | .closed (.error fault) => (.error fault, c)
    | _ => (.ok c.session.summary, c)

end Conversation

end StatusPanel
