import StatusPanel.Json.Reader

/-!
# Numbers in JSON

The digits of a number are gathered in a significand of 64 bits and a power of ten, which is then
applied in double precision. So the result need not be the number nearest to the decimal.
-/

namespace StatusPanel.Json

def isDigit (b : UInt8) : Bool :=
  0x30 ≤ b && b ≤ 0x39

def digitValue (b : UInt8) : Nat :=
  b.toNat - 0x30

/-- Appends decimal digits to a significand until one no longer fits into 64 bits; the number of
digits left over comes with it. -/
def gather (significand : Nat) : Bytes → Nat × Nat
  | [] => (significand, 0)
  | d :: digits =>
    let next := significand * 10 + digitValue d
    if next < 1 <<< 64 then gather next digits else (significand, digits.length + 1)

/-- `x * 10 ^ exponent`, in steps of at most `10 ^ 308`; nothing if a step leaves the range. -/
def scaleByTen (x : Double) (exponent : Int) : Option Double :=
  if exponent > 308 then
    if x.equal 0 then some x else none
  else if 0 ≤ exponent then
    let product := x * .ofNat (Nat.pow 10 exponent.toNat)
    if product.isFinite then some product else none
  else if -308 ≤ exponent then
    some (x / .ofNat (Nat.pow 10 (-exponent).toNat))
  else if x.equal 0 then
    some x
  else
    scaleByTen (x / .ofNat (Nat.pow 10 308)) (exponent + 308)
termination_by exponent.natAbs
decreasing_by omega

/-- The number `significand * 10 ^ exponent` with a sign. -/
def real (negative : Bool) (significand : Nat) (exponent : Int) : Except Fault Number :=
  match scaleByTen (.ofNat significand) exponent with
  | none => .error .numberOutOfRange
  | some x => .ok (.real (if negative then -x else x))

/-- A number without fraction and exponent: whole if 64 bits hold it, and not negative zero. -/
def whole (negative : Bool) (significand : Nat) : Number :=
  if negative then
    if significand = 0 ∨ 1 <<< 63 < significand then .real (-.ofNat significand)
    else .whole (-(significand : Int))
  else .whole significand

/-- An exponent, its `e` already read. -/
def exponentPart (negative : Bool) (significand : Nat) (exponent : Int) (s : Bytes) :
    Except Fault (Number × Bytes) :=
  let (down, t) := match s with
    | 0x2b :: t => (false, t)
    | 0x2d :: t => (true, t)
    | t => (false, t)
  match t with
  | [] => .error .unfinishedValue
  | d :: _ =>
    if isDigit d then
      let digits := t.takeWhile isDigit
      let rest := t.dropWhile isDigit
      let shift := digits.foldl (fun n d => n * 10 + digitValue d) 0
      if shift < 1 <<< 31 then
        (real negative significand
          (exponent + if down then -(shift : Int) else shift)).map (·, rest)
      else if significand ≠ 0 ∧ ¬down then
        .error .numberOutOfRange
      else
        (real negative 0 0).map (·, rest)
    else .error .invalidNumber

/-- A fraction, its point already read. -/
def fractionPart (negative : Bool) (significand : Nat) (exponent : Int) (s : Bytes) :
    Except Fault (Number × Bytes) :=
  let digits := s.takeWhile isDigit
  let rest := s.dropWhile isDigit
  match digits, rest with
  | [], [] => .error .unfinishedValue
  | [], _ :: _ => .error .invalidNumber
  | _ :: _, rest =>
    let (significand, dropped) := gather significand digits
    let exponent := exponent - (digits.length - dropped : Nat)
    match rest with
    | 0x65 :: t => exponentPart negative significand exponent t
    | 0x45 :: t => exponentPart negative significand exponent t
    | rest => (real negative significand exponent).map (·, rest)

/-- What follows the integer digits, `dropped` of which no longer fitted. -/
def afterInteger (negative : Bool) (significand dropped : Nat) (s : Bytes) :
    Except Fault (Number × Bytes) :=
  match s with
  | 0x2e :: t => fractionPart negative significand dropped t
  | 0x65 :: t => exponentPart negative significand dropped t
  | 0x45 :: t => exponentPart negative significand dropped t
  | s =>
    if dropped = 0 then .ok (whole negative significand, s)
    else (real negative significand dropped).map (·, s)

/-- A number without its sign. -/
def unsigned (negative : Bool) : Bytes → Except Fault (Number × Bytes)
  | [] => .error .unfinishedValue
  | b :: t =>
    if b = 0x30 then
      match t with
      | d :: _ => if isDigit d then .error .invalidNumber else afterInteger negative 0 0 t
      | [] => afterInteger negative 0 0 []
    else if isDigit b then
      let (significand, dropped) := gather 0 ((b :: t).takeWhile isDigit)
      afterInteger negative significand dropped ((b :: t).dropWhile isDigit)
    else .error .invalidNumber

/-! ## Reading a number makes progress -/

theorem length_le_of_map {n : Except Fault Number} {s t r : Bytes} {x : Number}
    (h : n.map (·, t) = .ok (x, r)) (ht : t.length ≤ s.length) : r.length ≤ s.length := by
  cases n with
  | error e => simp [Except.map] at h
  | ok n =>
    simp only [Except.map, Except.ok.injEq, Prod.mk.injEq] at h
    rw [← h.2]
    exact ht

theorem length_le_of_exponentPart {negative : Bool} {significand : Nat} {exponent : Int}
    {s r : Bytes} {x : Number}
    (h : exponentPart negative significand exponent s = .ok (x, r)) : r.length ≤ s.length := by
  have drop (t : Bytes) (ht : t.length ≤ s.length) :
      (t.dropWhile isDigit).length ≤ s.length :=
    Nat.le_trans (length_dropWhile_le _ _) ht
  unfold exponentPart at h
  split at h
  next down t heq =>
    have ht : t.length ≤ s.length := by
      split at heq <;> simp only [Prod.mk.injEq] at heq <;> obtain ⟨-, rfl⟩ := heq <;> simp
    split at h
    · simp at h
    · split at h
      · dsimp only at h
        split at h
        · exact length_le_of_map h (drop _ ht)
        · split at h
          · simp at h
          · exact length_le_of_map h (drop _ ht)
      · simp at h

theorem length_le_of_fractionPart {negative : Bool} {significand : Nat} {exponent : Int}
    {s r : Bytes} {x : Number}
    (h : fractionPart negative significand exponent s = .ok (x, r)) : r.length ≤ s.length := by
  have drop := length_dropWhile_le isDigit s
  unfold fractionPart at h
  dsimp only at h
  split at h
  · simp at h
  · simp at h
  · split at h
    next t heq =>
      have := length_le_of_exponentPart h
      rw [heq] at drop
      simp at drop
      omega
    next t heq =>
      have := length_le_of_exponentPart h
      rw [heq] at drop
      simp at drop
      omega
    · exact length_le_of_map h drop

theorem length_le_of_afterInteger {negative : Bool} {significand dropped : Nat} {s r : Bytes}
    {x : Number} (h : afterInteger negative significand dropped s = .ok (x, r)) :
    r.length ≤ s.length := by
  unfold afterInteger at h
  split at h
  · exact Nat.le_succ_of_le (length_le_of_fractionPart h)
  · exact Nat.le_succ_of_le (length_le_of_exponentPart h)
  · exact Nat.le_succ_of_le (length_le_of_exponentPart h)
  · split at h
    · simp only [Except.ok.injEq, Prod.mk.injEq] at h
      simp [h.2]
    · exact length_le_of_map h (Nat.le_refl _)

theorem length_lt_of_unsigned {negative : Bool} {s r : Bytes} {x : Number}
    (h : unsigned negative s = .ok (x, r)) : r.length < s.length := by
  cases s with
  | nil => simp [unsigned] at h
  | cons b t =>
    simp only [unsigned] at h
    split at h
    · split at h
      · split at h
        · simp at h
        · exact Nat.lt_succ_of_le (length_le_of_afterInteger h)
      · exact Nat.lt_succ_of_le (length_le_of_afterInteger h)
    · split at h
      next hd =>
        have hle := length_le_of_afterInteger h
        rw [List.dropWhile_cons_of_pos hd] at hle
        exact Nat.lt_succ_of_le (Nat.le_trans hle (length_dropWhile_le _ _))
      · simp at h

/-- Reads a number without its sign. -/
def readUnsigned (negative : Bool) (s : Bytes) : Read Number s :=
  match h : unsigned negative s with
  | .error e => .error e
  | .ok (x, r) => .ok (x, ⟨r, length_lt_of_unsigned h⟩)

end StatusPanel.Json
