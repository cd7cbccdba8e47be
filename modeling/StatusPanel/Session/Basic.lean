import StatusPanel.Frame.Reader
import StatusPanel.Frame.Writer
import StatusPanel.Png.Writer
import StatusPanel.Renderer

/-!
# Sessions

A session answers each request, a document in a frame, by a frame with its picture, before it reads
the next one. It does nothing itself: it says what it needs next (`Session.next`), a reading or a
writing, and goes on with the answer. Whatever it runs in supplies these answers.
-/

namespace StatusPanel

/-- How far a session has come. -/
inductive Phase where
  | idle
  | receiving (progress : Frame.Progress)
  | rendering (payload : Bytes)
  | responding (rest : Frame.Unwritten)
  | closed (outcome : Except Fault Unit)

/-- What a session in a phase is about to do. -/
def Phase.stage : Phase → Stage
  | .idle => .awaitingRequest
  | .receiving _ => .awaitingRequest
  | .rendering _ => .rendering
  | .responding _ => .responding
  | .closed _ => .closed

/-- How many requests were answered, and how many of them were skipped. -/
structure Summary where
  frames : Nat := 0
  skipped : Nat := 0
  deriving DecidableEq

/-- A session. -/
structure Session where
  renderer : Renderer
  phase : Phase := .idle
  summary : Summary := {}
  /-- What there is to tell, in order. -/
  log : List Event := []

/-- What a session needs next, and how it goes on with the answer. -/
inductive Next where
  | go (s : Session)
  /-- At most so many bytes of input. -/
  | read (most : Nat) (resume : Delivery → Session)
  /-- The contents of a file. -/
  | load (path : String) (resume : Except String Bytes → Session)
  /-- Bytes to be taken by the output, as many as it will. -/
  | write (part : Bytes) (resume : Except String Nat → Session)
  | flush (resume : Except String Unit → Session)
  | stop

namespace Session

/-- What is said of a session that has failed. -/
def failureText (fault : Fault) : String :=
  s!"session failed: {fault.message}"

/-- Has something to tell. -/
def tell (s : Session) (e : Event) : Session :=
  { s with log := s.log ++ [e] }

/-- Goes on to a phase. -/
def enter (s : Session) (p : Phase) : Session :=
  { s.tell (.entered s.phase.stage p.stage) with phase := p }

/-- Ends for good. -/
def close (s : Session) (outcome : Except Fault Unit) : Session :=
  let s := s.enter (.closed outcome)
  match outcome with
  | .ok () => s.tell (.ended s.summary.frames s.summary.skipped)
  | .error _ => s

/-- Awaits the next request. -/
def awaitRequest (s : Session) : Session :=
  s.enter (.receiving .start)

/-- Has the next request, or none because the input is at its end, or the fault of reading it. -/
def received (s : Session) : Except Fault (Option Bytes) → Session
  | .error fault => s.close (.error fault)
  | .ok none => s.close (.ok ())
  | .ok (some payload) =>
    (s.tell (.received s.summary.frames payload.length)).enter (.rendering payload)

/-- Takes a delivery of input. -/
def deliver (s : Session) (p : Frame.Progress) (d : Delivery) : Session :=
  match p.advance s.renderer.settings.maxFrame d with
  | .more p => { s with phase := .receiving p }
  | .complete frame => s.received frame

/-- Begins to answer. -/
def respond (s : Session) (response : Bytes) : Session :=
  match Frame.ofPayload response with
  | .ok parts => s.enter (.responding parts)
  | .error fault => (s.enter (.responding [])).close (.error fault)

/-- Does a fault leave the session going? -/
def skips (s : Session) (fault : Fault) : Bool :=
  fault.isRequestFailure && s.renderer.settings.policy = .emptyFrame

/-- Has the picture of the request, or the fault that there is none. -/
def conclude (s : Session) (picture : Except Fault Picture) : Session :=
  match picture with
  | .ok p => s.respond (Png.write p)
  | .error fault =>
    if s.skips fault then
      let s := s.tell (.skipped s.summary.frames fault)
      { s with summary.skipped := s.summary.skipped + 1 }.respond []
    else s.close (.error fault)

/-- Has read the file of the font that the document is drawn with. -/
def drawLoaded (s : Session) (d : Document) (path : String) (contents : Except String Bytes) :
    Session :=
  match s.renderer.receive path contents with
  | .error fault => s.conclude (.error fault)
  | .ok (font, renderer, event) =>
    { s.tell event with renderer }.conclude (renderer.draw font d)

/-- The output has taken some of what is to be written, or failed. -/
def written (s : Session) (rest : Frame.Unwritten) (answer : Except String Nat) : Session :=
  match rest.answered answer with
  | .ok rest => { s with phase := .responding rest }
  | .error fault => s.close (.error fault)

/-- The output has been flushed, or that failed. -/
def flushed (s : Session) (answer : Except String Unit) : Session :=
  match answer with
  | .ok () => { s with summary.frames := s.summary.frames + 1 }.awaitRequest
  | .error text => s.close (.error (.stream text))

/-- What the session needs next. -/
def next (s : Session) : Next :=
  match s.phase with
  | .idle => .go s.awaitRequest
  | .receiving p => .read p.missing (s.deliver p)
  | .rendering payload =>
    match Document.read payload with
    | .error fault => .go (s.conclude (.error fault))
    | .ok d =>
      match s.renderer.fontNeed with
      | .ready font => .go (s.conclude (s.renderer.draw font d))
      | .file path => .load path (s.drawLoaded d path)
  | .responding [] => .flush s.flushed
  | .responding (part :: rest) => .write part (s.written (part :: rest))
  | .closed _ => .stop

end Session

end StatusPanel
