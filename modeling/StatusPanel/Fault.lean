import StatusPanel.Document.Basic

/-!
# Faults

What can go wrong while documents are served and drawn, with its message. Some faults concern one
request alone; after those the stream still stands at the beginning of a frame.
-/

namespace StatusPanel

/-- A failure of the program. -/
inductive Fault where
  /-- Reading or writing failed. -/
  | stream (text : String)
  /-- The input ended inside a length. -/
  | truncatedLength (received : Nat)
  /-- The input ended before the announced payload did. -/
  | truncatedFrame (expected received : Nat)
  /-- A payload is longer than allowed. -/
  | frameTooLarge (length limit : Nat)
  /-- The payload is no document. -/
  | document (reason : String)
  /-- A widget refers to a value that is missing. -/
  | unresolved (key : String) (expected : Kind)
  /-- A widget refers to a value of another kind. -/
  | mismatched (key : String) (expected found : Kind)
  /-- The font could not be read. -/
  | font (reason : String)
  /-- The picture could not be decoded. -/
  | image (reason : String)
  /-- The settings do not make sense. -/
  | settings (reason : String)
  deriving DecidableEq

namespace Fault

def message : Fault → String
  | .stream text => text
  | .truncatedLength received =>
    s!"Stream closed inside a length prefix ({received} of 4 bytes)"
  | .truncatedFrame expected received =>
    s!"Stream closed mid-frame: expected {expected} bytes, got {received}"
  | .frameTooLarge length limit =>
    s!"Frame of {length} bytes exceeds the maximum of {limit} bytes"
  | .document reason => s!"Failed to decode layout document: {reason}"
  | .unresolved key expected =>
    s!"Unresolved value reference '{key}' (expected {expected.name})"
  | .mismatched key expected found =>
    s!"Value '{key}' has type {found.name}, expected {expected.name}"
  | .font reason => s!"Font loading failed: {reason}"
  | .image reason => s!"Image encoding failed: {reason}"
  | .settings reason => s!"Invalid configuration: {reason}"

/-- Does the fault concern one request alone? -/
def isRequestFailure : Fault → Bool
  | .document _ => true
  | .unresolved .. => true
  | .mismatched .. => true
  | _ => false

end Fault

end StatusPanel
