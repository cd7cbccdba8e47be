import StatusPanel.Json.NumberText
import StatusPanel.Json.StringText

/-!
# Lists and objects in JSON

`foldElements` and `foldMembers` read the parts of a list or an object one after the other. What a
part is, and what becomes of it, is their argument's business; blanks, commas and brackets are
theirs. `readValue` reads a whole tree, at most `levels` brackets deep.
-/

namespace StatusPanel.Json

variable {σ : Type}

/-- How a list or an object goes on. -/
inductive Turn (s : Bytes) where
  | close (rest : Rest s)
  | part (rest : Bytes) (h : rest.length ≤ s.length)

/-- After an opening bracket: the end of the list, or its first element. -/
def firstElement (s : Bytes) : Except Fault (Turn s) :=
  match h : skipBlanks s with
  | [] => .error .unfinishedList
  | b :: t =>
    if b = 0x5d then .ok (.close ⟨t, lt_of_skipBlanks_eq_cons h⟩)
    else .ok (.part (b :: t) (length_cons_le_of_skipBlanks_eq h))

/-- After an element: the end of the list, or another element. -/
def nextElement (s : Bytes) : Except Fault (Turn s) :=
  match h : skipBlanks s with
  | [] => .error .unfinishedList
  | b :: t =>
    have ht : t.length < s.length := lt_of_skipBlanks_eq_cons h
    if b = 0x5d then .ok (.close ⟨t, ht⟩)
    else if b = 0x2c then
      match hu : skipBlanks t with
      | [] => .error .unfinishedValue
      | c :: u =>
        if c = 0x5d then .error .trailingComma
        else .ok (.part (c :: u)
          (Nat.le_of_lt (Nat.lt_of_le_of_lt (length_cons_le_of_skipBlanks_eq hu) ht)))
    else .error .noListEnd

/-- The end of a list that may hold no further element. -/
def endList (s : Bytes) : Except Fault (Rest s) :=
  match h : skipBlanks s with
  | [] => .error .unfinishedList
  | b :: t =>
    if b = 0x5d then .ok ⟨t, lt_of_skipBlanks_eq_cons h⟩
    else if b = 0x2c then
      match skipBlanks t with
      | c :: _ => if c = 0x5d then .error .trailingComma else .error .trailingCharacters
      | [] => .error .trailingCharacters
    else .error .trailingCharacters

/-- Reads elements from `s` on to the end of the list. -/
def foldElementsFrom {start : Bytes} (element : σ → (s : Bytes) → Read σ s) (state : σ)
    (s : Bytes) (h : s.length ≤ start.length) : Read σ start :=
  match element state s with
  | .error e => .error e
  | .ok (state, r) =>
    match nextElement r.1 with
    | .error e => .error e
    | .ok (.close rest) =>
      .ok (state, ⟨rest.1, Nat.lt_of_lt_of_le (Nat.lt_trans rest.2 r.2) h⟩)
    | .ok (.part t ht) =>
      have : t.length < s.length := Nat.lt_of_le_of_lt ht r.2
      foldElementsFrom element state t (Nat.le_trans (Nat.le_of_lt this) h)
termination_by s.length

/-- Reads a list, its opening bracket already read. -/
def foldElements (element : σ → (s : Bytes) → Read σ s) (state : σ) (s : Bytes) : Read σ s :=
  match firstElement s with
  | .error e => .error e
  | .ok (.close rest) => .ok (state, rest)
  | .ok (.part t ht) => foldElementsFrom element state t ht

/-- After an opening brace: the end of the object, or its first key, the quote already read. -/
def firstMember (s : Bytes) : Except Fault (Turn s) :=
  match h : skipBlanks s with
  | [] => .error .unfinishedObject
  | b :: t =>
    have ht : t.length < s.length := lt_of_skipBlanks_eq_cons h
    if b = 0x7d then .ok (.close ⟨t, ht⟩)
    else if b = 0x22 then .ok (.part t (Nat.le_of_lt ht))
    else .error .keyNotString

/-- After a member: the end of the object, or another key, the quote already read. -/
def nextMember (s : Bytes) : Except Fault (Turn s) :=
  match h : skipBlanks s with
  | [] => .error .unfinishedObject
  | b :: t =>
    have ht : t.length < s.length := lt_of_skipBlanks_eq_cons h
    if b = 0x7d then .ok (.close ⟨t, ht⟩)
    else if b = 0x2c then
      match hu : skipBlanks t with
      | [] => .error .unfinishedValue
      | c :: u =>
        if c = 0x22 then
          .ok (.part u (length_le_of_skipBlanks_twice h hu))
        else if c = 0x7d then .error .trailingComma
        else .error .keyNotString
    else .error .noObjectEnd

/-- The colon between a key and its value. -/
def colon (s : Bytes) : Except Fault (Rest s) :=
  match h : skipBlanks s with
  | [] => .error .unfinishedObject
  | b :: t => if b = 0x3a then .ok ⟨t, lt_of_skipBlanks_eq_cons h⟩ else .error .noColon

/-- Reads members from `s` on, which starts inside a key, to the end of the object. -/
def foldMembersFrom {start : Bytes} (member : σ → String → (s : Bytes) → Read σ s) (state : σ)
    (s : Bytes) (h : s.length ≤ start.length) : Read σ start :=
  match readString s with
  | .error e => .error e
  | .ok (key, k) =>
    match member state key k.1 with
    | .error e => .error e
    | .ok (state, r) =>
      have hr : r.1.length < s.length := Nat.lt_trans r.2 k.2
      match nextMember r.1 with
      | .error e => .error e
      | .ok (.close rest) => .ok (state, ⟨rest.1, Nat.lt_of_lt_of_le (Nat.lt_trans rest.2 hr) h⟩)
      | .ok (.part t ht) =>
        have : t.length < s.length := Nat.lt_of_le_of_lt ht hr
        foldMembersFrom member state t (Nat.le_trans (Nat.le_of_lt this) h)
termination_by s.length

/-- Reads an object, its opening brace already read. The reader of a member stands before the
colon, so that it can object to a key at once. -/
def foldMembers (member : σ → String → (s : Bytes) → Read σ s) (state : σ) (s : Bytes) :
    Read σ s :=
  match firstMember s with
  | .error e => .error e
  | .ok (.close rest) => .ok (state, rest)
  | .ok (.part t ht) => foldMembersFrom member state t ht

/-- Reads a colon and what follows it. -/
def afterColon {α : Type} (read : (s : Bytes) → Read α s) (s : Bytes) : Read α s :=
  match colon s with
  | .error e => .error e
  | .ok r => (read r.1).inside r

/-- Reads a value without parts, its blanks already dropped. -/
def readScalar : (s : Bytes) → Read Json s
  | [] => .error .unfinishedValue
  | b :: t =>
    if b = 0x6e then readWord .null [0x75, 0x6c, 0x6c] t
    else if b = 0x74 then readWord (.boolean true) [0x72, 0x75, 0x65] t
    else if b = 0x66 then readWord (.boolean false) [0x61, 0x6c, 0x73, 0x65] t
    else if b = 0x22 then ((readString t).map .string).afterByte
    else if b = 0x2d then ((readUnsigned true t).map .number).afterByte
    else if isDigit b then (readUnsigned false (b :: t)).map .number
    else .error .noValue

/-- Reads a value with at most `levels` brackets inside one another. -/
def readValue : (levels : Nat) → (s : Bytes) → Read Json s
  | levels, s => s |> onFirst fun b t =>
    if b = 0x5b then
      match levels with
      | 0 => .error .tooDeep
      | levels + 1 =>
        (foldElements (fun items u => (readValue levels u).map (· :: items)) [] t)
          |>.map (fun items => .array items.reverse) |>.afterByte
    else if b = 0x7b then
      match levels with
      | 0 => .error .tooDeep
      | levels + 1 =>
        (foldMembers (fun members key u =>
          (afterColon (readValue levels) u).map fun v => (key, v) :: members) [] t)
          |>.map (fun members => .object members.reverse) |>.afterByte
    else readScalar (b :: t)
termination_by structural levels => levels

/-- The brackets that a text may have inside one another. -/
def maxLevels : Nat := 127

/-- After a whole text only blanks may follow. -/
def finish {α : Type} {s : Bytes} (x : Read α s) : Except Fault α :=
  match x with
  | .error e => .error e
  | .ok (a, r) => if skipBlanks r.1 = [] then .ok a else .error .trailingCharacters

/-- Reads a whole text as one value. -/
def read (s : Bytes) : Except Fault Json :=
  finish (readValue maxLevels s)

end StatusPanel.Json
