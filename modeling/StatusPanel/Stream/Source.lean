import StatusPanel.Bytes

/-!
# Input

Input is delivered piece by piece. Each reading takes one delivery, or a part of a piece of bytes;
what else it may meet is an interruption, a failure, or the end. After the last delivery the input
is at its end.
-/

namespace StatusPanel

/-- What one reading brings. -/
inductive Delivery where
  | bytes (piece : Bytes)
  /-- Nothing was read; the reading may be tried again. -/
  | interrupted
  | failed (text : String)
  | ended
  deriving DecidableEq

/-- How often a delivery can be read; each byte counts. -/
def Delivery.size : Delivery → Nat
  | .bytes piece => piece.length + 1
  | _ => 1

/-- Input that is yet to be delivered. -/
structure Source where
  deliveries : List Delivery

namespace Source

/-- The deliveries from the first on that is not an empty piece, of which at most `most` bytes are
taken. -/
def readFrom (most : Nat) : List Delivery → Delivery × List Delivery
  | [] => (.ended, [])
  | .bytes [] :: rest => readFrom most rest
  | .bytes piece :: rest =>
    (.bytes (piece.take most),
      if most < piece.length then .bytes (piece.drop most) :: rest else rest)
  | other :: rest => (other, rest)

/-- Reads at most `most` bytes. -/
def read (s : Source) (most : Nat) : Delivery × Source :=
  let (delivery, rest) := readFrom most s.deliveries
  (delivery, ⟨rest⟩)

/-- The bytes that are yet to be delivered. -/
def remaining (s : Source) : Bytes :=
  s.deliveries.flatMap fun
    | .bytes piece => piece
    | _ => []

/-- How often the input can be read before it is at its end for good. -/
def size (s : Source) : Nat :=
  s.deliveries.foldr (fun d size => d.size + size) 0

theorem size_read_le (s : Source) (most : Nat) : (s.read most).2.size ≤ s.size := by
  obtain ⟨deliveries⟩ := s
  simp only [read, size]
  induction deliveries with
  | nil => simp [readFrom]
  | cons d rest ih =>
    match d with
    | .bytes [] => simp only [readFrom, List.foldr_cons]; omega
    | .bytes (b :: piece) =>
      simp only [readFrom]
      split
      · simp only [List.foldr_cons, Delivery.size, List.length_drop, List.length_cons]
        omega
      · simp only [List.foldr_cons]
        omega
    | .interrupted => simp only [readFrom, List.foldr_cons]; omega
    | .failed _ => simp only [readFrom, List.foldr_cons]; omega
    | .ended => simp only [readFrom, List.foldr_cons]; omega

/-- A reading that brings something uses the input up. -/
theorem size_read_lt (s : Source) {most : Nat} (h : 0 < most)
    (hd : (s.read most).1 ≠ .ended) : (s.read most).2.size < s.size := by
  obtain ⟨deliveries⟩ := s
  simp only [read, size] at hd ⊢
  induction deliveries with
  | nil => simp [readFrom] at hd
  | cons d rest ih =>
    match d with
    | .bytes [] =>
      simp only [readFrom, List.foldr_cons] at hd ⊢
      have := ih hd
      omega
    | .bytes (b :: piece) =>
      simp only [readFrom]
      split
      · simp only [List.foldr_cons, Delivery.size, List.length_drop, List.length_cons]
        omega
      · simp only [List.foldr_cons, Delivery.size]
        omega
    | .interrupted => simp only [readFrom, List.foldr_cons, Delivery.size]; omega
    | .failed _ => simp only [readFrom, List.foldr_cons, Delivery.size]; omega
    | .ended => simp [readFrom] at hd

end Source

end StatusPanel
