import StatusPanel.Json.Reader

/-!
# Strings in JSON

A string is read in two steps: escapes are resolved to bytes, and at the closing quote the bytes
have to be well-formed UTF-8. A skipped string is only looked through for its end.
-/

namespace StatusPanel.Json

/-- Four hexadecimal digits; any other four bytes are an invalid escape. -/
def hexFour : (s : Bytes) → Read Nat s
  | a :: b :: c :: d :: r =>
    match digit a, digit b, digit c, digit d with
    | some a, some b, some c, some d =>
      .ok (((a * 16 + b) * 16 + c) * 16 + d, ⟨r, by simp; omega⟩)
    | _, _, _, _ => .error .invalidEscape
  | _ => .error .unfinishedString
where
  digit (b : UInt8) : Option Nat := Bytes.hexDigit? (Char.ofNat b.toNat)

/-- The UTF-8 bytes of a code point. -/
def encodePoint (n : Nat) : Bytes :=
  Bytes.ofString (Char.ofNat n).toString

/-- The second half of a surrogate pair, which has to be an escape as well. -/
def lowSurrogate : (s : Bytes) → Read Nat s
  | [] => .error .unfinishedString
  | b :: t =>
    if b ≠ 0x5c then .error .unfinishedEscape
    else
      match t with
      | [] => .error .unfinishedString
      | c :: r =>
        if c ≠ 0x75 then .error .unfinishedEscape
        else
          (hexFour r).check (fun n =>
            if 0xdc00 ≤ n ∧ n ≤ 0xdfff then .ok n else .error .loneSurrogate)
            |>.afterByte.afterByte

/-- A code point written as one escape or as a surrogate pair, its first `\u` already read. -/
def pointEscape (s : Bytes) : Read Bytes s :=
  match hexFour s with
  | .error e => .error e
  | .ok (n, r) =>
    if 0xdc00 ≤ n ∧ n ≤ 0xdfff then .error .loneSurrogate
    else if 0xd800 ≤ n ∧ n ≤ 0xdbff then
      Read.inside r <| (lowSurrogate r.1).map fun low =>
        encodePoint (0x10000 + (n - 0xd800) * 0x400 + (low - 0xdc00))
    else .ok (encodePoint n, r)

/-- The byte that a one-letter escape stands for. -/
def letterEscape? (letter : UInt8) : Option UInt8 :=
  if letter = 0x22 ∨ letter = 0x5c ∨ letter = 0x2f then some letter
  else if letter = 0x62 then some 0x08
  else if letter = 0x66 then some 0x0c
  else if letter = 0x6e then some 0x0a
  else if letter = 0x72 then some 0x0d
  else if letter = 0x74 then some 0x09
  else none

/-- The bytes that an escape stands for, its backslash already read. -/
def escape : (s : Bytes) → Read Bytes s
  | [] => .error .unfinishedString
  | b :: t =>
    if b = 0x75 then (pointEscape t).afterByte
    else
      match letterEscape? b with
      | some c => .ok ([c], ⟨t, Nat.lt_succ_self _⟩)
      | none => .error .invalidEscape

/-- Reads a string to its closing quote; `front` holds the bytes before `s`, the last one
first. -/
def stringFrom {start : Bytes} (front : Bytes) :
    (s : Bytes) → s.length ≤ start.length → Read String start
  | [], _ => .error .unfinishedString
  | b :: t, h =>
    if b = 0x22 then
      match Bytes.toString? front.reverse with
      | some text => .ok (text, ⟨t, h⟩)
      | none => .error .invalidText
    else if b = 0x5c then
      match escape t with
      | .error e => .error e
      | .ok (bytes, r) =>
        stringFrom (bytes.reverse ++ front) r.1
          (Nat.le_of_lt (Nat.lt_trans r.2 h))
    else if b < 0x20 then .error .controlCharacter
    else stringFrom (b :: front) t (Nat.le_of_lt h)
termination_by s => s.length
decreasing_by
  · exact Nat.lt_succ_of_lt r.2
  · exact Nat.lt_succ_self _

/-- Reads a string, its opening quote already read. -/
def readString (s : Bytes) : Read String s :=
  stringFrom [] s (length_le_self s)

/-- The end of an escape in a skipped string: letters and digits are checked, surrogates are
not. -/
def skipEscape : (s : Bytes) → Read Unit s
  | [] => .error .unfinishedString
  | b :: t =>
    if b = 0x75 then ((hexFour t).map fun _ => ()).afterByte
    else if (letterEscape? b).isSome then .ok ((), ⟨t, Nat.lt_succ_self _⟩)
    else .error .invalidEscape

/-- Skips to the end of a string. -/
def skipStringFrom {start : Bytes} :
    (s : Bytes) → s.length ≤ start.length → Read Unit start
  | [], _ => .error .unfinishedString
  | b :: t, h =>
    if b = 0x22 then .ok ((), ⟨t, h⟩)
    else if b = 0x5c then
      match skipEscape t with
      | .error e => .error e
      | .ok ((), r) => skipStringFrom r.1 (Nat.le_of_lt (Nat.lt_trans r.2 h))
    else if b < 0x20 then .error .controlCharacter
    else skipStringFrom t (Nat.le_of_lt h)
termination_by s => s.length
decreasing_by
  · exact Nat.lt_succ_of_lt r.2
  · exact Nat.lt_succ_self _

/-- Skips a string, its opening quote already read. -/
def skipString (s : Bytes) : Read Unit s :=
  skipStringFrom s (length_le_self s)

end StatusPanel.Json
