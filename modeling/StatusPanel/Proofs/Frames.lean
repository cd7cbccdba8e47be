import StatusPanel.Frame.Reader
import StatusPanel.Frame.Writer

/-!
# Frames as byte strings

Which frames a byte string begins with is said by `parse` for one frame and by `split` for all of
them. Input that brings pieces of bytes and interruptions, and then ends, is read as if its bytes
came at once (`readOn_plain`). Output that never fails takes each frame whole, however little it
takes at a time (`writeOn_willing`).
-/

namespace StatusPanel

namespace Frame

/-! ## Frames of a byte string -/

/-- What comes of a payload whose length has been read, and the bytes after it. -/
def parsePayload (length : Nat) (bytes : Bytes) : Except Fault (Option Bytes) × Bytes :=
  if bytes.length < length then (.error (.truncatedFrame length bytes.length), [])
  else (.ok (some (bytes.take length)), bytes.drop length)

/-- What comes of the first frame of a byte string, and the bytes after those that are looked at. -/
def parse (limit : Nat) (bytes : Bytes) : Except Fault (Option Bytes) × Bytes :=
  if bytes = [] then (.ok none, [])
  else if bytes.length < lengthSize then (.error (.truncatedLength bytes.length), [])
  else
    let length := Bytes.toLittleEndian (bytes.take lengthSize)
    if limit < length then (.error (.frameTooLarge length limit), bytes.drop lengthSize)
    else parsePayload length (bytes.drop lengthSize)

/-- A payload as it is sent: after its length. -/
def encode (payload : Bytes) : Bytes :=
  Bytes.littleEndian lengthSize payload.length ++ payload

theorem eq_append_of_parsePayload {length : Nat} {bytes payload rest : Bytes}
    (h : parsePayload length bytes = (.ok (some payload), rest)) :
    bytes = payload ++ rest ∧ payload.length = length := by
  unfold parsePayload at h
  split at h
  · cases h
  · next hlong =>
    cases h
    refine ⟨(List.take_append_drop length bytes).symm, ?_⟩
    rw [List.length_take]
    omega

/-- A whole frame at the front of a byte string. -/
theorem eq_encode_of_parse {limit : Nat} {bytes payload rest : Bytes}
    (h : parse limit bytes = (.ok (some payload), rest)) :
    bytes = encode payload ++ rest ∧ payload.length ≤ limit ∧ payload.length ≤ longest := by
  unfold parse at h
  split at h
  · cases h
  · split at h
    · cases h
    · next hlong =>
      dsimp only at h
      split at h
      · cases h
      · next hlimit =>
        obtain ⟨hrest, hlen⟩ := eq_append_of_parsePayload h
        have htake : (bytes.take lengthSize).length = lengthSize := by
          rw [List.length_take]
          omega
        have hprefix := Bytes.littleEndian_toLittleEndian (bytes.take lengthSize)
        have hlt := Bytes.toLittleEndian_lt (bytes.take lengthSize)
        rw [htake] at hprefix hlt
        refine ⟨?_, by omega, ?_⟩
        · unfold encode
          rw [hlen, hprefix, List.append_assoc, ← hrest, List.take_append_drop]
        · rw [hlen]
          exact Nat.le_of_lt_succ hlt

/-- The length is complete: the payload begins. -/
theorem parse_of_length (limit : Nat) (taken rest : Bytes) (h : taken.length = lengthSize) :
    parse limit (taken ++ rest) =
      if limit < Bytes.toLittleEndian taken then
        (.error (.frameTooLarge (Bytes.toLittleEndian taken) limit), rest)
      else parsePayload (Bytes.toLittleEndian taken) rest := by
  have hne : taken ++ rest ≠ [] := by
    intro hnil
    rw [(List.append_eq_nil_iff.1 hnil).1] at h
    cases h
  unfold parse
  rw [if_neg hne, if_neg (by rw [List.length_append]; omega), ← h, List.take_left,
    List.drop_left]

/-- A payload that is sent is read again. -/
theorem parse_encode {limit : Nat} {payload : Bytes} (h : payload.length ≤ limit)
    (hl : payload.length ≤ longest) (rest : Bytes) :
    parse limit (encode payload ++ rest) = (.ok (some payload), rest) := by
  unfold encode
  rw [List.append_assoc, parse_of_length _ _ _ (Bytes.length_littleEndian ..),
    Bytes.toLittleEndian_littleEndian _ _ (Nat.lt_succ_of_le hl), if_neg (Nat.not_lt.2 h)]
  unfold parsePayload
  rw [if_neg (by rw [List.length_append]; omega), List.take_left, List.drop_left]

theorem length_lt_of_parse {limit : Nat} {bytes payload rest : Bytes}
    (h : parse limit bytes = (.ok (some payload), rest)) : rest.length < bytes.length := by
  rw [(eq_encode_of_parse h).1, encode, List.append_assoc, List.length_append,
    List.length_append, Bytes.length_littleEndian]
  unfold lengthSize
  omega

/-- The payloads of the whole frames that a byte string begins with, and the bytes after them. -/
def split (limit : Nat) (bytes : Bytes) : List Bytes × Bytes :=
  match h : parse limit bytes with
  | (.ok (some payload), rest) =>
    have := length_lt_of_parse h
    (payload :: (split limit rest).1, (split limit rest).2)
  | _ => ([], bytes)
termination_by bytes.length

theorem split_of_parse {limit : Nat} {bytes payload rest : Bytes}
    (h : parse limit bytes = (.ok (some payload), rest)) :
    split limit bytes = (payload :: (split limit rest).1, (split limit rest).2) := by
  rw [split]
  split
  · next h' =>
    rw [h] at h'
    cases h'
    rfl
  · next hne => exact absurd h (hne payload rest)

theorem split_of_not_parse {limit : Nat} {bytes : Bytes}
    (h : ∀ payload, (parse limit bytes).1 ≠ .ok (some payload)) :
    split limit bytes = ([], bytes) := by
  rw [split]
  split
  · next payload rest h' => exact absurd (congrArg Prod.fst h') (h payload)
  · rfl

/-- The frames are cut off one after the other, as long as there are whole ones. -/
theorem split_induction {limit : Nat} {motive : Bytes → Prop}
    (done : ∀ bytes, (∀ payload, (parse limit bytes).1 ≠ .ok (some payload)) → motive bytes)
    (next : ∀ bytes payload rest, parse limit bytes = (.ok (some payload), rest) →
      motive rest → motive bytes) (bytes : Bytes) : motive bytes := by
  induction hn : bytes.length using Nat.strongRecOn generalizing bytes with
  | ind n ih =>
    subst hn
    cases hp : parse limit bytes with
    | mk frame rest =>
      by_cases hw : ∃ payload, frame = .ok (some payload)
      · obtain ⟨payload, rfl⟩ := hw
        exact next bytes payload rest hp (ih rest.length (length_lt_of_parse hp) rest rfl)
      · refine done bytes fun payload hpayload => hw ⟨payload, ?_⟩
        rw [hp] at hpayload
        exact hpayload

/-- A byte string is its whole frames and what is left, which begins with no other one. -/
theorem split_spec (limit : Nat) (bytes : Bytes) :
    bytes = (split limit bytes).1.flatMap encode ++ (split limit bytes).2 ∧
      (∀ payload ∈ (split limit bytes).1, payload.length ≤ limit ∧ payload.length ≤ longest) ∧
      ∀ payload, (parse limit (split limit bytes).2).1 ≠ .ok (some payload) := by
  induction bytes using @split_induction limit with
  | done bytes h =>
    rw [split_of_not_parse h]
    exact ⟨rfl, nofun, h⟩
  | next bytes payload rest hp ih =>
    obtain ⟨hbytes, hall, hdone⟩ := ih
    obtain ⟨hframe, hlimit, hlong⟩ := eq_encode_of_parse hp
    rw [split_of_parse hp]
    refine ⟨?_, ?_, hdone⟩
    · dsimp only
      rw [List.flatMap_cons, List.append_assoc, ← hbytes]
      exact hframe
    · intro other hother
      rcases List.mem_cons.1 hother with rfl | hother
      · exact ⟨hlimit, hlong⟩
      · exact hall other hother

end Frame

/-! ## Input -/

/-- The bytes of a delivery. -/
def Delivery.content : Delivery → Bytes
  | .bytes piece => piece
  | _ => []

namespace Source

/-- A reading takes the bytes that it brings off the input, and not more than it may. -/
theorem remaining_read (s : Source) (most : Nat) :
    s.remaining = (s.read most).1.content ++ (s.read most).2.remaining ∧
      (s.read most).1.content.length ≤ most := by
  obtain ⟨deliveries⟩ := s
  induction deliveries with
  | nil => exact ⟨rfl, Nat.zero_le _⟩
  | cons d rest ih =>
    match d with
    | .bytes [] => exact ih
    | .bytes (b :: piece) =>
      simp only [read, readFrom, Delivery.content, remaining, List.flatMap_cons]
      refine ⟨?_, List.length_take_le ..⟩
      split
      · rw [List.flatMap_cons, ← List.append_assoc, List.take_append_drop]
      · next hle => rw [List.take_of_length_le (Nat.le_of_not_lt hle)]
    | .interrupted => exact ⟨rfl, Nat.zero_le _⟩
    | .failed _ => exact ⟨rfl, Nat.zero_le _⟩
    | .ended => exact ⟨rfl, Nat.zero_le _⟩

/-- The input brings pieces of bytes, with interruptions between them, and then ends. -/
def Plain (s : Source) : Prop :=
  ∀ d ∈ s.deliveries, d = .interrupted ∨ ∃ piece, d = .bytes piece

instance (d : Delivery) : Decidable (d = .interrupted ∨ ∃ piece, d = .bytes piece) :=
  match d with
  | .interrupted => isTrue (.inl rfl)
  | .bytes piece => isTrue (.inr ⟨piece, rfl⟩)
  | .failed _ => isFalse (by simp)
  | .ended => isFalse (by simp)

instance (s : Source) : Decidable s.Plain :=
  inferInstanceAs (Decidable (∀ d ∈ s.deliveries, d = .interrupted ∨ ∃ piece, d = .bytes piece))

/-- Plain input stays plain, and only at its end it brings neither bytes nor an interruption. -/
theorem Plain.read {s : Source} (h : s.Plain) (most : Nat) :
    (s.read most).2.Plain ∧
      ((s.read most).1 = .ended ∧ (s.read most).2.remaining = [] ∨
        (s.read most).1 = .interrupted ∨ ∃ piece, (s.read most).1 = .bytes piece) := by
  obtain ⟨deliveries⟩ := s
  induction deliveries with
  | nil => exact ⟨h, .inl ⟨rfl, rfl⟩⟩
  | cons d rest ih =>
    have hrest : Plain ⟨rest⟩ := fun d hd => h d (List.mem_cons_of_mem _ hd)
    rcases h d List.mem_cons_self with rfl | ⟨piece, rfl⟩
    · exact ⟨hrest, .inr (.inl rfl)⟩
    · cases piece with
      | nil => exact ih hrest
      | cons b piece =>
        refine ⟨?_, .inr (.inr ⟨_, rfl⟩)⟩
        simp only [Source.read, readFrom]
        split
        · exact List.forall_mem_cons.2 ⟨.inr ⟨_, rfl⟩, hrest⟩
        · exact hrest

/-- One reading of plain input takes a piece off its bytes, unless it is interrupted or the bytes
are used up. -/
theorem Plain.read_cases {s : Source} (h : s.Plain) (most : Nat) :
    (s.read most).2.Plain ∧
      ((s.read most).1 = .ended ∧ s.remaining = [] ∧ (s.read most).2.remaining = [] ∨
        (s.read most).1 = .interrupted ∧ s.remaining = (s.read most).2.remaining ∨
        ∃ piece, (s.read most).1 = .bytes piece ∧ piece.length ≤ most ∧
          s.remaining = piece ++ (s.read most).2.remaining) := by
  obtain ⟨hplain, hdelivery⟩ := h.read most
  obtain ⟨hremaining, hmost⟩ := s.remaining_read most
  refine ⟨hplain, ?_⟩
  rcases hdelivery with ⟨hd, hr⟩ | hd | ⟨piece, hd⟩
  · rw [hd] at hremaining
    exact .inl ⟨hd, hremaining.trans hr, hr⟩
  · rw [hd] at hremaining
    exact .inr (.inl ⟨hd, hremaining⟩)
  · rw [hd] at hremaining hmost
    exact .inr (.inr ⟨piece, hd, hmost, hremaining⟩)

end Source

namespace Frame

/-! ## Reading -/

/-- What comes of a frame that has been read in part. -/
def Progress.parse (limit : Nat) (p : Progress) (bytes : Bytes) :
    Except Fault (Option Bytes) × Bytes :=
  match p with
  | .inLength taken _ => Frame.parse limit (taken ++ bytes)
  | .inPayload length taken _ => parsePayload length (taken.toList ++ bytes)

namespace Progress

theorem advance_ended_eq (limit : Nat) (p : Progress) :
    p.advance limit .ended = .complete (p.parse limit []).1 ∧ (p.parse limit []).2 = [] := by
  cases p with
  | inLength taken short =>
    cases taken with
    | nil => exact ⟨rfl, rfl⟩
    | cons b rest =>
      simp only [parse, Frame.parse, List.append_nil]
      rw [if_neg (List.cons_ne_nil b rest), if_pos short]
      exact ⟨rfl, rfl⟩
  | inPayload length taken short =>
    simp only [parse, parsePayload, List.append_nil]
    rw [if_pos (by simpa using short)]
    exact ⟨rfl, rfl⟩

end Progress

namespace Progress

/-- A piece that is not longer than what is missing counts as the next bytes of the frame. -/
theorem advance_bytes (limit : Nat) (p : Progress) {piece : Bytes}
    (h : piece.length ≤ p.missing) (rest : Bytes) :
    match p.advance limit (.bytes piece) with
    | .more q => q.parse limit rest = p.parse limit (piece ++ rest)
    | .complete frame => p.parse limit (piece ++ rest) = (frame, rest) := by
  cases p with
  | inLength taken short =>
    simp only [missing] at h
    simp only [advance, parse, ← List.append_assoc]
    by_cases hlt : (taken ++ piece).length < lengthSize
    · simp only [dif_pos hlt]
    · simp only [dif_neg hlt]
      rw [List.length_append] at hlt
      rw [parse_of_length _ _ _ (by rw [List.length_append]; omega)]
      unfold beginPayload
      by_cases hlimit : limit < Bytes.toLittleEndian (taken ++ piece)
      · simp only [if_pos hlimit]
      · simp only [if_neg hlimit]
        by_cases hpos : 0 < Bytes.toLittleEndian (taken ++ piece)
        · simp only [dif_pos hpos]
          rfl
        · rw [dif_neg hpos, Nat.eq_zero_of_not_pos hpos]
          rfl
  | inPayload length taken short =>
    have happ : (taken ++ piece).toList = taken.toList ++ piece := Array.toList_appendList
    simp only [missing] at h
    simp only [advance, parse, ← List.append_assoc]
    by_cases hlt : (taken ++ piece).size < length
    · simp only [dif_pos hlt, happ]
    · simp only [dif_neg hlt, happ]
      have hlen : (taken.toList ++ piece).length = length := by
        rw [← Array.length_toList, happ, List.length_append, Array.length_toList] at hlt
        rw [List.length_append, Array.length_toList]
        omega
      unfold parsePayload
      rw [if_neg (by rw [List.length_append]; omega), ← hlen, List.take_left, List.drop_left]

end Progress

/-- Reading on takes one delivery at a time. -/
theorem readOn_eq (limit : Nat) (p : Progress) (s : Source) :
    readOn limit p s =
      match p.advance limit (s.read p.missing).1 with
      | .complete frame => (frame, (s.read p.missing).2)
      | .more q => readOn limit q (s.read p.missing).2 := by
  rw [readOn]
  split
  next d rest hd =>
    conv => rhs; rw [hd]
    dsimp only
    split
    · next h => rw [h]
    · next h => rw [h]

/-- **Plain input is read as if its bytes came at once.** -/
theorem readOn_plain (limit : Nat) (p : Progress) {s : Source} (h : s.Plain) :
    (readOn limit p s).1 = (p.parse limit s.remaining).1 ∧
      (readOn limit p s).2.remaining = (p.parse limit s.remaining).2 ∧
      (readOn limit p s).2.Plain := by
  -- what is read moves from the input into the progress, and `parse` of the two stays the same
  induction hn : s.size using Nat.strongRecOn generalizing p s with
  | ind n ih =>
    subst hn
    rw [readOn_eq]
    obtain ⟨hplain, hcases⟩ := h.read_cases p.missing
    rcases hcases with ⟨hd, hs, hr⟩ | ⟨hd, hs⟩ | ⟨piece, hd, hle, hs⟩
    · obtain ⟨hc, hleft⟩ := p.advance_ended_eq limit
      rw [hd, hc, hs]
      exact ⟨rfl, hr.trans hleft.symm, hplain⟩
    · have hlt := s.size_read_lt p.missing_pos (by rw [hd]; nofun)
      rw [hd, hs]
      exact ih _ hlt p hplain rfl
    · have hlt := s.size_read_lt p.missing_pos (by rw [hd]; nofun)
      have hstep := p.advance_bytes limit hle (s.read p.missing).2.remaining
      rw [hd, hs]
      cases ha : p.advance limit (.bytes piece) with
      | more q =>
        rw [ha] at hstep
        dsimp only at hstep ⊢
        rw [← hstep]
        exact ih _ hlt q hplain rfl
      | complete frame =>
        rw [ha] at hstep
        dsimp only at hstep ⊢
        rw [hstep]
        exact ⟨rfl, rfl, hplain⟩

end Frame

/-! ## Willing output -/

namespace Sink

/-- The output always takes something of what it is offered, and flushing it never fails. -/
structure Willing (s : Sink) : Prop where
  room_pos : ∀ taken, ∃ room, s.room taken = .ok (room + 1)
  flushing_ok : ∀ flushes, s.flushing flushes = .ok ()

theorem willing_unlimited : unlimited.Willing where
  room_pos _ := ⟨(1 <<< 64) - 1, rfl⟩
  flushing_ok _ := rfl

namespace Willing

variable {s : Sink}

/-- How much it has taken makes no difference. -/
theorem having (h : s.Willing) (taken : Array UInt8) (flushes : Nat) :
    { s with taken, flushes }.Willing :=
  ⟨h.room_pos, h.flushing_ok⟩

theorem write (h : s.Willing) {part : Bytes} (hp : part ≠ []) :
    ∃ count, s.write part =
      (.ok (count + 1), { s with taken := s.taken ++ part.take (count + 1) }) := by
  obtain ⟨room, hroom⟩ := h.room_pos s.taken.size
  have hpos : 0 < part.length := List.length_pos_iff.2 hp
  refine ⟨min (room + 1) part.length - 1, ?_⟩
  rw [show min (room + 1) part.length - 1 + 1 = min (room + 1) part.length by omega]
  simp only [Sink.write, hroom]

theorem flush (h : s.Willing) : s.flush = (.ok (), { s with flushes := s.flushes + 1 }) := by
  unfold Sink.flush
  rw [h.flushing_ok]

end Willing

end Sink

namespace Frame

/-! ## Writing -/

/-- The parts of a frame are not empty, and together they are the frame. -/
theorem ofPayload_cases (payload : Bytes) :
    (payload.length ≤ longest ∧ ∃ parts, ofPayload payload = .ok parts ∧
        parts.flatten = encode payload ∧ ∀ part ∈ parts, part ≠ []) ∨
      longest < payload.length ∧
        ofPayload payload = .error (.frameTooLarge payload.length longest) := by
  unfold ofPayload
  by_cases h : payload.length ≤ longest
  · rw [if_pos h]
    refine .inl ⟨h, _, rfl, List.flatten_filter_not_isEmpty.trans ?_, ?_⟩
    · simp [encode, lengthSize]
    · intro part hpart
      simpa using (List.mem_filter.1 hpart).2
  · rw [if_neg h]
    exact .inr ⟨Nat.lt_of_not_le h, rfl⟩

namespace Unwritten

theorem take_append_advance (count : Nat) (part : Bytes) (rest : Unwritten) :
    part.take count ++ (advance count (part :: rest)).flatten = part ++ rest.flatten := by
  simp only [advance]
  split
  · next h => rw [List.take_of_length_le h]
  · rw [List.flatten_cons, ← List.append_assoc, List.take_append_drop]

/-- What has been taken and what is left are together as before. -/
theorem taken_append_advance (taken : Array UInt8) (count : Nat) (part : Bytes)
    (rest : Unwritten) :
    taken ++ part.take count ++ (advance count (part :: rest)).flatten =
      taken ++ (part :: rest).flatten := by
  apply Array.toList_inj.1
  rw [Array.toList_appendList, Array.toList_appendList, Array.toList_appendList,
    List.append_assoc, take_append_advance, List.flatten_cons]

theorem ne_nil_of_mem_advance {count : Nat} {part : Bytes} {rest : Unwritten}
    (h : ∀ p ∈ rest, p ≠ []) : ∀ p ∈ advance count (part :: rest), p ≠ [] := by
  simp only [advance]
  split
  · exact h
  · next hlt =>
    intro p hp
    rcases List.mem_cons.1 hp with rfl | hp
    · intro hnil
      exact hlt (List.drop_eq_nil_iff.1 hnil)
    · exact h p hp

end Unwritten

theorem writeOn_nil (s : Sink) : writeOn [] s = (s.flush.1.mapError .stream, s.flush.2) := by
  rw [writeOn]

/-- Writing on makes one offer at a time. -/
theorem writeOn_cons (part : Bytes) (rest : Unwritten) (s : Sink) :
    writeOn (part :: rest) s =
      match Unwritten.answered (part :: rest) (s.write part).1 with
      | .error fault => (.error fault, (s.write part).2)
      | .ok u => writeOn u (s.write part).2 := by
  rw [writeOn]
  split
  next answer s' hw =>
    conv => rhs; rw [hw]
    dsimp only
    split
    · next h => rw [h]
    · next h => rw [h]

/-- **Willing output takes all parts**, and is flushed once. -/
theorem writeOn_willing (u : Unwritten) {s : Sink} (h : s.Willing) (hu : ∀ part ∈ u, part ≠ []) :
    writeOn u s =
      (.ok (), { s with taken := s.taken ++ u.flatten, flushes := s.flushes + 1 }) := by
  induction hn : u.size using Nat.strongRecOn generalizing u s with
  | ind n ih =>
    subst hn
    cases u with
    | nil =>
      rw [writeOn_nil, h.flush, List.flatten_nil, Array.appendList_nil]
      rfl
    | cons part rest =>
      obtain ⟨count, hwrite⟩ := h.write (hu part List.mem_cons_self)
      have hrest : ∀ p ∈ rest, p ≠ [] := fun p hp => hu p (List.mem_cons_of_mem _ hp)
      have hlt := Unwritten.size_advance part rest (Nat.succ_pos count)
      rw [writeOn_cons, hwrite]
      rw [show Unwritten.answered (part :: rest) (.ok (count + 1)) =
        .ok (Unwritten.advance (count + 1) (part :: rest)) from rfl]
      dsimp only
      rw [ih _ hlt _ (h.having _ _) (Unwritten.ne_nil_of_mem_advance hrest) rfl]
      dsimp only
      rw [Unwritten.taken_append_advance]

end Frame

end StatusPanel
