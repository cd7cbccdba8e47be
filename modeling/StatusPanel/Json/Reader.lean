import StatusPanel.Bytes
import StatusPanel.Json.Fault

/-!
# Reading JSON

A reader takes the bytes that are left and gives a value with the rest, which is shorter.
-/

namespace StatusPanel.Json

theorem length_le_self (s : Bytes) : s.length ≤ s.length :=
  Nat.le_refl _

/-- What is left of `s` after something of it was read. -/
abbrev Rest (s : Bytes) := {r : Bytes // r.length < s.length}

/-- The outcome of reading an `α` at the front of `s`. -/
abbrev Read (α : Type) (s : Bytes) := Except Fault (α × Rest s)

namespace Read

variable {α β : Type} {s : Bytes}

/-- Changes what was read. -/
def map (g : α → β) : Read α s → Read β s
  | .error e => .error e
  | .ok (a, r) => .ok (g a, r)

/-- Looks at what was read, and may object to it. -/
def check (g : α → Except Fault β) : Read α s → Read β s
  | .error e => .error e
  | .ok (a, r) =>
    match g a with
    | .error e => .error e
    | .ok b => .ok (b, r)

/-- What was read at a later place, seen from an earlier one. -/
def widen {t : Bytes} (h : t.length ≤ s.length) : Read α t → Read α s
  | .error e => .error e
  | .ok (a, r) => .ok (a, ⟨r.1, Nat.lt_of_lt_of_le r.2 h⟩)

/-- What was read in a rest of `s`. -/
def inside (r : Rest s) (x : Read α r.1) : Read α s :=
  x.widen (Nat.le_of_lt r.2)

/-- What was read after the byte `b`. -/
def afterByte {b : UInt8} (x : Read α s) : Read α (b :: s) :=
  x.widen (Nat.le_succ _)

/-- Reads on where `α` ended. -/
def andThen (x : Read α s) (next : α → (r : Bytes) → Read β r) : Read β s :=
  match x with
  | .error e => .error e
  | .ok (a, r) => (next a r.1).inside r

end Read

/-! ## Blanks -/

def isBlank (b : UInt8) : Bool :=
  b == 0x20 || b == 0x09 || b == 0x0a || b == 0x0d

/-- Drops the blanks at the front. -/
def skipBlanks (s : Bytes) : Bytes :=
  s.dropWhile isBlank

theorem length_dropWhile_le (p : UInt8 → Bool) (s : Bytes) :
    (s.dropWhile p).length ≤ s.length :=
  (List.dropWhile_sublist p).length_le

theorem length_skipBlanks_le (s : Bytes) : (skipBlanks s).length ≤ s.length :=
  length_dropWhile_le _ _

theorem length_cons_le_of_skipBlanks_eq {s t : Bytes} {b : UInt8} (h : skipBlanks s = b :: t) :
    (b :: t).length ≤ s.length :=
  h ▸ length_skipBlanks_le s

theorem lt_of_skipBlanks_eq_cons {s t : Bytes} {b : UInt8} (h : skipBlanks s = b :: t) :
    t.length < s.length :=
  length_cons_le_of_skipBlanks_eq h

theorem length_le_of_skipBlanks_twice {s t u : Bytes} {b c : UInt8} (h : skipBlanks s = b :: t)
    (hu : skipBlanks t = c :: u) : u.length ≤ s.length :=
  Nat.le_of_lt (Nat.lt_trans (lt_of_skipBlanks_eq_cons hu) (lt_of_skipBlanks_eq_cons h))

/-- Reads what stands after the blanks; its first byte decides how. -/
def onFirst {α : Type} (read : (b : UInt8) → (t : Bytes) → Read α (b :: t)) (s : Bytes) :
    Read α s :=
  match h : skipBlanks s with
  | [] => .error .unfinishedValue
  | b :: t => (read b t).widen (length_cons_le_of_skipBlanks_eq h)

/-! ## Words -/

/-- The rest of a word such as `null`, whose first letter has been read. -/
def word : (letters : Bytes) → Bytes → Except Fault Bytes
  | [], s => .ok s
  | _ :: _, [] => .error .unfinishedValue
  | l :: letters, b :: s => if b = l then word letters s else .error .noWord

theorem length_le_of_word {letters s r : Bytes} (h : word letters s = .ok r) :
    r.length ≤ s.length := by
  induction letters generalizing s with
  | nil =>
    simp only [word, Except.ok.injEq] at h
    simp [h]
  | cons l letters ih =>
    cases s with
    | nil => simp [word] at h
    | cons b s =>
      simp only [word] at h
      split at h
      · exact Nat.le_succ_of_le (ih h)
      · simp at h

/-- Reads the rest of a word that stands for `a`. -/
def readWord {α : Type} (a : α) (letters s : Bytes) {b : UInt8} : Read α (b :: s) :=
  match h : word letters s with
  | .error e => .error e
  | .ok r => .ok (a, ⟨r, Nat.lt_succ_of_le (length_le_of_word h)⟩)

end StatusPanel.Json
