import StatusPanel.Fault
import StatusPanel.Stream.Source

/-!
# Reading frames

A frame is a length, four bytes with the least significant first, and so many bytes of payload.
Reading asks for no byte beyond the end of the frame. Input may end before a frame, but not inside.
-/

namespace StatusPanel.Frame

/-- The bytes of a length. -/
def lengthSize : Nat := 4

/-- What has been read of a frame that is not complete. -/
inductive Progress where
  | inLength (taken : Bytes) (short : taken.length < lengthSize)
  | inPayload (length : Nat) (taken : Array UInt8) (short : taken.size < length)

namespace Progress

/-- Nothing has been read of the frame. -/
def start : Progress :=
  .inLength [] (by decide)

/-- How many bytes are missing, as far as it is known. -/
def missing : Progress → Nat
  | .inLength taken _ => lengthSize - taken.length
  | .inPayload length taken _ => length - taken.size

theorem missing_pos (p : Progress) : 0 < p.missing := by
  cases p <;> simp only [missing] <;> omega

/-- The outcome of a reading: more has to be read, or the frame is complete, or there is none. -/
inductive Outcome where
  | more (p : Progress)
  | complete (frame : Except Fault (Option Bytes))

/-- The payload begins, unless it is empty or too long. -/
def beginPayload (limit length : Nat) : Outcome :=
  if limit < length then .complete (.error (.frameTooLarge length limit))
  else if h : 0 < length then .more (.inPayload length #[] h)
  else .complete (.ok (some []))

/-- Takes a delivery. -/
def advance (limit : Nat) (p : Progress) (d : Delivery) : Outcome :=
  match d, p with
  | .interrupted, p => .more p
  | .failed text, _ => .complete (.error (.stream text))
  | .ended, .inLength [] _ => .complete (.ok none)
  | .ended, .inLength taken _ => .complete (.error (.truncatedLength taken.length))
  | .ended, .inPayload length taken _ =>
    .complete (.error (.truncatedFrame length taken.size))
  | .bytes piece, .inLength taken _ =>
    let taken := taken ++ piece
    if h : taken.length < lengthSize then .more (.inLength taken h)
    else beginPayload limit (Bytes.toLittleEndian taken)
  | .bytes piece, .inPayload length taken _ =>
    let taken := taken ++ piece
    if h : taken.size < length then .more (.inPayload length taken h)
    else .complete (.ok (some taken.toList))

/-- At the end of the input no more is read, and there is no frame. -/
theorem advance_ended (limit : Nat) (p : Progress) :
    ∃ frame, p.advance limit .ended = .complete frame ∧ ∀ payload, frame ≠ .ok (some payload) := by
  match p with
  | .inLength [] _ => exact ⟨_, rfl, by simp⟩
  | .inLength (_ :: _) _ => exact ⟨_, rfl, by simp⟩
  | .inPayload .. => exact ⟨_, rfl, by simp⟩

end Progress

/-- Reads on until the frame is complete. -/
def readOn (limit : Nat) (p : Progress) (s : Source) : Except Fault (Option Bytes) × Source :=
  match hd : s.read p.missing with
  | (d, rest) =>
    match h : p.advance limit d with
    | .complete frame => (frame, rest)
    | .more q =>
      have : rest.size < s.size := by
        have hlt := s.size_read_lt p.missing_pos (by
          rw [hd]
          rintro rfl
          obtain ⟨_, hf, _⟩ := p.advance_ended limit
          rw [hf] at h
          cases h)
        rwa [hd] at hlt
      readOn limit q rest
termination_by s.size

/-- Reads a frame of at most `limit` bytes, if there is one before the input ends. -/
def read (limit : Nat) (s : Source) : Except Fault (Option Bytes) × Source :=
  readOn limit .start s

end StatusPanel.Frame
