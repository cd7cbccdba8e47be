import StatusPanel.Fault
import StatusPanel.Stream.Sink

/-!
# Writing frames

A frame is written in two parts, its length and its payload, and then the output is flushed. Output
may take a part by and by.
-/

namespace StatusPanel.Frame

/-- The longest payload whose length can be written. -/
def longest : Nat := 0xFFFFFFFF

/-- What is yet to be written of a frame: the rest of a part, and the parts after it. -/
abbrev Unwritten := List Bytes

/-- The parts of a frame. An empty one is not written at all. -/
def ofPayload (payload : Bytes) : Except Fault Unwritten :=
  if payload.length ≤ longest then
    .ok ([Bytes.littleEndian 4 payload.length, payload].filter fun part => !part.isEmpty)
  else .error (.frameTooLarge payload.length longest)

/-- The output has taken `count` bytes of the first part. -/
def Unwritten.advance (count : Nat) : Unwritten → Unwritten
  | [] => []
  | part :: rest => if part.length ≤ count then rest else part.drop count :: rest

/-- What is said of output that takes nothing. -/
def nothingTaken : String :=
  "failed to write whole buffer"

/-- What remains when output has answered the offer of the first part. -/
def Unwritten.answered (u : Unwritten) : Except String Nat → Except Fault Unwritten
  | .error text => .error (.stream text)
  | .ok 0 => .error (.stream nothingTaken)
  | .ok (count + 1) => .ok (u.advance (count + 1))

/-- How many bytes are yet to be written; each part counts once more. -/
def Unwritten.size (u : Unwritten) : Nat :=
  u.foldr (fun part size => part.length + 1 + size) 0

theorem Unwritten.size_advance {count : Nat} (part : Bytes) (rest : Unwritten) (h : 0 < count) :
    (Unwritten.advance count (part :: rest)).size < Unwritten.size (part :: rest) := by
  simp only [advance, size]
  split
  · simp only [List.foldr_cons]
    omega
  · simp only [List.foldr_cons, List.length_drop]
    omega

theorem Unwritten.size_answered {part : Bytes} {rest u : Unwritten} {answer : Except String Nat}
    (h : Unwritten.answered (part :: rest) answer = .ok u) :
    u.size < Unwritten.size (part :: rest) := by
  match answer with
  | .error text => cases h
  | .ok 0 => cases h
  | .ok (count + 1) =>
    cases h
    exact size_advance part rest (Nat.succ_pos count)

/-- Writes the parts of a frame one after the other and flushes. -/
def writeOn (u : Unwritten) (s : Sink) : Except Fault Unit × Sink :=
  match u with
  | [] =>
    let (answer, s) := s.flush
    (answer.mapError .stream, s)
  | part :: rest =>
    let (answer, s) := s.write part
    match h : Unwritten.answered (part :: rest) answer with
    | .error fault => (.error fault, s)
    | .ok u =>
      have := Unwritten.size_answered h
      writeOn u s
termination_by u.size

/-- Writes a frame. -/
def write (payload : Bytes) (s : Sink) : Except Fault Unit × Sink :=
  match ofPayload payload with
  | .error fault => (.error fault, s)
  | .ok parts => writeOn parts s

end StatusPanel.Frame
