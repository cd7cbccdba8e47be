import StatusPanel.Json.Container

/-!
# Skipped JSON values

A value that nobody asked for is only looked through: surrogates, UTF-8, the size of numbers and
the depth of brackets do not matter, and a comma before a closing bracket reads as a missing value
or key.
-/

namespace StatusPanel.Json

/-- What is left of `s`, possibly all of it. -/
abbrev Tail (s : Bytes) := {r : Bytes // r.length ≤ s.length}

/-- Skips digits, of which there has to be one. -/
def skipDigits : (s : Bytes) → Except Fault (Rest s)
  | [] => .error .invalidNumber
  | d :: t =>
    if isDigit d then
      .ok ⟨t.dropWhile isDigit, Nat.lt_succ_of_le (length_dropWhile_le _ _)⟩
    else .error .invalidNumber

/-- Skips an exponent, its `e` already read. -/
def skipExponent (s : Bytes) : Except Fault (Tail s) :=
  match s with
  | [] => .error .invalidNumber
  | b :: t =>
    if b = 0x2b ∨ b = 0x2d then
      (skipDigits t).map fun r => ⟨r.1, Nat.le_of_lt (Nat.lt_succ_of_lt r.2)⟩
    else (skipDigits (b :: t)).map fun r => ⟨r.1, Nat.le_of_lt r.2⟩

/-- Skips an exponent if there is one. -/
def skipOptionalExponent (s : Bytes) : Except Fault (Tail s) :=
  match s with
  | [] => .ok ⟨[], Nat.le_refl _⟩
  | b :: t =>
    if b = 0x65 ∨ b = 0x45 then (skipExponent t).map fun r => ⟨r.1, Nat.le_succ_of_le r.2⟩
    else .ok ⟨b :: t, Nat.le_refl _⟩

/-- Skips what follows the integer digits of a number. -/
def skipAfterInteger (s : Bytes) : Except Fault (Tail s) :=
  match s with
  | [] => .ok ⟨[], Nat.le_refl _⟩
  | b :: t =>
    if b = 0x2e then
      match skipDigits t with
      | .error e => .error e
      | .ok r =>
        (skipOptionalExponent r.1).map fun u =>
          ⟨u.1, Nat.le_trans u.2 (Nat.le_of_lt (Nat.lt_succ_of_lt r.2))⟩
    else skipOptionalExponent (b :: t)

/-- Skips a number without its sign. -/
def skipUnsigned (s : Bytes) : Read Unit s :=
  match s with
  | [] => .error .invalidNumber
  | b :: t =>
    if b = 0x30 then
      if t.head?.any isDigit then .error .invalidNumber
      else (skipAfterInteger t).map fun r => ((), ⟨r.1, Nat.lt_succ_of_le r.2⟩)
    else if isDigit b then
      (skipAfterInteger (t.dropWhile isDigit)).map fun r =>
        ((), ⟨r.1, Nat.lt_succ_of_le (Nat.le_trans r.2 (length_dropWhile_le _ _))⟩)
    else .error .invalidNumber

/-- Skips a value without parts, its blanks already dropped. -/
def skipScalar : (s : Bytes) → Read Unit s
  | [] => .error .unfinishedValue
  | b :: t =>
    if b = 0x6e then readWord () [0x75, 0x6c, 0x6c] t
    else if b = 0x74 then readWord () [0x72, 0x75, 0x65] t
    else if b = 0x66 then readWord () [0x61, 0x6c, 0x73, 0x65] t
    else if b = 0x22 then (skipString t).afterByte
    else if b = 0x2d then (skipUnsigned t).afterByte
    else if isDigit b then skipUnsigned (b :: t)
    else .error .noValue

/-- A bracket that is still open. -/
inductive Bracket where
  | list
  | object

/-- Skips a key and its colon, the opening quote already read. -/
def skipKey (s : Bytes) : Read Unit s :=
  (skipString s).andThen fun _ r => (colon r).map fun u => ((), u)

/-- After a value inside `bracket`: does another value follow, or was the bracket closed? -/
def nextSkipped (bracket : Bracket) (s : Bytes) : Read Bool s :=
  match h : skipBlanks s with
  | [] =>
    match bracket with
    | .list => .error .unfinishedList
    | .object => .error .unfinishedObject
  | b :: t =>
    have ht : t.length < s.length := lt_of_skipBlanks_eq_cons h
    match bracket with
    | .list =>
      if b = 0x5d then .ok (false, ⟨t, ht⟩)
      else if b = 0x2c then .ok (true, ⟨t, ht⟩)
      else .error .noListEnd
    | .object =>
      if b = 0x7d then .ok (false, ⟨t, ht⟩)
      else if b = 0x2c then
        match hu : skipBlanks t with
        | [] => .error .unfinishedObject
        | c :: u =>
          if c = 0x22 then
            ((skipKey u).map fun _ => true).widen (length_le_of_skipBlanks_twice h hu)
          else .error .keyNotString
      else .error .noObjectEnd

mutual

/-- Skips a value inside the brackets `outer`, and then what is left of those. -/
def skipValue {start : Bytes} (outer : List Bracket) (s : Bytes) (h : s.length ≤ start.length) :
    Read Unit start :=
  match hs : skipBlanks s with
  | [] => .error .unfinishedValue
  | b :: t =>
    have ht : t.length < s.length := lt_of_skipBlanks_eq_cons hs
    if b = 0x5b then
      match firstElement t with
      | .error e => .error e
      | .ok (.close rest) =>
        have : rest.1.length < s.length := Nat.lt_trans rest.2 ht
        skipOuter outer rest.1 (Nat.lt_of_lt_of_le this h)
      | .ok (.part u hu) =>
        have : u.length < s.length := Nat.lt_of_le_of_lt hu ht
        skipValue (.list :: outer) u (Nat.le_trans (Nat.le_of_lt this) h)
    else if b = 0x7b then
      match firstMember t with
      | .error e => .error e
      | .ok (.close rest) =>
        have : rest.1.length < s.length := Nat.lt_trans rest.2 ht
        skipOuter outer rest.1 (Nat.lt_of_lt_of_le this h)
      | .ok (.part u hu) =>
        match skipKey u with
        | .error e => .error e
        | .ok ((), r) =>
          have : r.1.length < s.length := Nat.lt_trans (Nat.lt_of_lt_of_le r.2 hu) ht
          skipValue (.object :: outer) r.1 (Nat.le_trans (Nat.le_of_lt this) h)
    else
      match skipScalar (b :: t) with
      | .error e => .error e
      | .ok ((), r) =>
        have : r.1.length < s.length :=
          Nat.lt_of_lt_of_le r.2 (length_cons_le_of_skipBlanks_eq hs)
        skipOuter outer r.1 (Nat.lt_of_lt_of_le this h)
termination_by s.length

/-- Skips what is left of the brackets `outer` after a value. -/
def skipOuter {start : Bytes} (outer : List Bracket) (s : Bytes) (h : s.length < start.length) :
    Read Unit start :=
  match outer with
  | [] => .ok ((), ⟨s, h⟩)
  | bracket :: outer =>
    match nextSkipped bracket s with
    | .error e => .error e
    | .ok (more, r) =>
      have := r.2
      if more then skipValue (bracket :: outer) r.1 (Nat.le_of_lt (Nat.lt_trans r.2 h))
      else skipOuter outer r.1 (Nat.lt_trans r.2 h)
termination_by s.length

end

/-- Skips one value. -/
def skip (s : Bytes) : Read Unit s :=
  skipValue [] s (length_le_self s)

end StatusPanel.Json
