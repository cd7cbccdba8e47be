import StatusPanel.Bytes

/-!
# Output

Output takes what it is offered piece by piece, and then has to be flushed. How much it takes at
once may depend on how much it has taken, and it may fail.
-/

namespace StatusPanel

/-- Where output goes. -/
structure Sink where
  /-- How many bytes are taken at once after so many, unless that fails. -/
  room : Nat → Except String Nat
  /-- Does flushing succeed after so many times? -/
  flushing : Nat → Except String Unit
  taken : Array UInt8 := #[]
  flushes : Nat := 0

namespace Sink

/-- Output that takes everything. -/
def unlimited : Sink where
  room _ := .ok (1 <<< 64)
  flushing _ := .ok ()

/-- Offers bytes; the answer is how many of them are taken. -/
def write (s : Sink) (bytes : Bytes) : Except String Nat × Sink :=
  match s.room s.taken.size with
  | .error text => (.error text, s)
  | .ok room =>
    let count := min room bytes.length
    (.ok count, { s with taken := s.taken ++ bytes.take count })

def flush (s : Sink) : Except String Unit × Sink :=
  match s.flushing s.flushes with
  | .error text => (.error text, s)
  | .ok () => (.ok (), { s with flushes := s.flushes + 1 })

/-- Output that fails has taken nothing. -/
theorem write_cases (s : Sink) (bytes : Bytes) :
    (∃ text, s.write bytes = (.error text, s)) ∨
      ∃ count, s.write bytes = (.ok count, { s with taken := s.taken ++ bytes.take count }) := by
  unfold write
  split
  · next text _ => exact .inl ⟨text, rfl⟩
  · next room _ => exact .inr ⟨min room bytes.length, rfl⟩

theorem flush_cases (s : Sink) :
    (∃ text, s.flush = (.error text, s)) ∨
      s.flush = (.ok (), { s with flushes := s.flushes + 1 }) := by
  unfold flush
  split
  · next text _ => exact .inl ⟨text, rfl⟩
  · exact .inr rfl

end Sink

end StatusPanel
