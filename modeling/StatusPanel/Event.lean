import StatusPanel.Fault

/-!
# Events

What a session and its fonts tell an operator, each event with a level.
-/

namespace StatusPanel

/-- What a session is about to do. -/
inductive Stage where
  | awaitingRequest
  | rendering
  | responding
  | closed
  deriving DecidableEq

def Stage.name : Stage → String
  | .awaitingRequest => "AwaitingRequest"
  | .rendering => "Rendering"
  | .responding => "Responding"
  | .closed => "Closed"

/-- How much an event matters. -/
inductive Level where
  | trace
  | debug
  | info
  | warn
  deriving DecidableEq

def Level.name : Level → String
  | .trace => "TRACE"
  | .debug => "DEBUG"
  | .info => "INFO"
  | .warn => "WARN"

/-- Something worth telling. -/
inductive Event where
  /-- A session goes from one stage to another. -/
  | entered (old new : Stage)
  /-- A request of so many bytes is there. -/
  | received (number length : Nat)
  /-- A request is answered with an empty frame. -/
  | skipped (number : Nat) (fault : Fault)
  /-- The input ended between two requests. -/
  | ended (frames unanswered : Nat)
  /-- A font file was read for the first time. -/
  | loaded (path : String)
  /-- A font file was read once more. -/
  | reloaded (path : String)
  deriving DecidableEq

namespace Event

def level : Event → Level
  | .entered .. => .trace
  | .received .. => .debug
  | .skipped .. => .warn
  | .ended .. => .info
  | .loaded _ => .info
  | .reloaded _ => .debug

def text : Event → String
  | .entered old new => s!"session {old.name} -> {new.name}"
  | .received number length => s!"request {number}: {length} bytes"
  | .skipped number fault => s!"skipping request {number}: {fault.message}"
  | .ended frames unanswered =>
    s!"session closed after {frames} frames ({unanswered} skipped)"
  | .loaded path => s!"loaded font {path}"
  | .reloaded path => s!"reloaded font {path}"

/-- The event as a line. -/
def line (e : Event) : String :=
  s!"{e.level.name} {e.text}"

end Event

end StatusPanel
