import StatusPanel.Proofs.Frames

/-!
# Streams of frames

Frames that are read or written one after the other. What comes of reading again and again, after
faults too, is told from the bytes of the input alone (`readMany_plain`). Reading gives some
payloads and then the end exactly if the bytes are those payloads, each after its length
(`readMany_eq_payloads_iff`), which is what writing them leaves (`writeMany_willing`); so reading
and writing undo one another (`reading_undoes_writing`).
-/

namespace StatusPanel.Frame

/-! ## Frame after frame -/

/-- Reads frames one after the other, and goes on after a fault. -/
def readMany (limit : Nat) : (count : Nat) → Source → List (Except Fault (Option Bytes)) × Source
  | 0, s => ([], s)
  | count + 1, s =>
    let (frame, s) := read limit s
    let (frames, s) := readMany limit count s
    (frame :: frames, s)

/-- Writes frames one after the other, up to the first that cannot be written. -/
def writeMany : List Bytes → Sink → Except Fault Unit × Sink
  | [], s => (.ok (), s)
  | payload :: rest, s =>
    match write payload s with
    | (.ok (), s) => writeMany rest s
    | (.error fault, s) => (.error fault, s)

/-- What is left of a byte string after so many frames, or faults, at its front. -/
def unread (limit : Nat) : (count : Nat) → Bytes → Bytes
  | 0, bytes => bytes
  | count + 1, bytes => unread limit count (parse limit bytes).2

/-! ## Reading -/

/-- Plain input begins with the frame that its bytes begin with. -/
theorem read_plain (limit : Nat) {s : Source} (h : s.Plain) :
    (read limit s).1 = (parse limit s.remaining).1 ∧
      (read limit s).2.remaining = (parse limit s.remaining).2 ∧ (read limit s).2.Plain :=
  readOn_plain limit .start h

/-- **Reading again and again** takes the frames, and the faults, off the front of the bytes. -/
theorem readMany_plain (limit count : Nat) {s : Source} (h : s.Plain) :
    (readMany limit count s).1 =
        (List.range count).map (fun i => (parse limit (unread limit i s.remaining)).1) ∧
      (readMany limit count s).2.remaining = unread limit count s.remaining := by
  induction count generalizing s with
  | zero => exact ⟨rfl, rfl⟩
  | succ count ih =>
    obtain ⟨hframe, hrest, hplain⟩ := read_plain limit h
    obtain ⟨hframes, hlast⟩ := ih hplain
    rw [hrest] at hframes hlast
    refine ⟨?_, hlast⟩
    rw [List.range_succ_eq_map, List.map_cons, List.map_map]
    simp only [readMany, hframe, hframes]
    rfl

/-- **Reading does not depend on how the input is delivered.** The first frame of a byte string, or
the fault in its place, and what it takes off the bytes, depend on the bytes and on the limit alone:
nothing but the end; a length, or a payload, that is cut off by the end; a length above the limit,
of which no payload is read; or a whole payload, and then no byte behind it is touched. Reading on,
after faults too, does the same with the bytes that are left. -/
theorem read_whatever_delivery (limit : Nat) (source : Source) (plain : source.Plain) :
    (∀ bytes : Bytes,
      let length := Bytes.toLittleEndian (bytes.take 4)
      parse limit bytes =
        if bytes = [] then (.ok none, [])
        else if bytes.length < 4 then (.error (.truncatedLength bytes.length), [])
        else if limit < length then (.error (.frameTooLarge length limit), bytes.drop 4)
        else if bytes.length - 4 < length then
          (.error (.truncatedFrame length (bytes.length - 4)), [])
        else (.ok (some ((bytes.drop 4).take length)), bytes.drop (4 + length))) ∧
      ((read limit source).1 = (parse limit source.remaining).1 ∧
        (read limit source).2.remaining = (parse limit source.remaining).2) ∧
      ∀ count,
        (readMany limit count source).1 =
            (List.range count).map (fun i => (parse limit (unread limit i source.remaining)).1) ∧
          (readMany limit count source).2.remaining = unread limit count source.remaining := by
  refine ⟨?_, ?_, ?_⟩
  · intro bytes
    simp only [parse, parsePayload, lengthSize, List.length_drop, List.drop_drop]
  · obtain ⟨hframe, hrest, _⟩ := read_plain limit plain
    exact ⟨hframe, hrest⟩
  · intro count
    exact readMany_plain limit count plain

/-- A frame in two pieces, and a second one that is cut off; then there is only the end. -/
theorem read_whatever_delivery_cut_off :
    let source : Source := ⟨[.bytes [1, 0], .interrupted, .bytes [0, 0, 7, 2, 0, 0], .bytes [0, 9]]⟩
    (read 8 source).1 = .ok (some [7]) ∧
      (readMany 8 3 source).1 =
        [.ok (some [7]), .error (.truncatedFrame 2 1), .ok none] := by
  intro source
  have plain : source.Plain := by decide
  obtain ⟨_, ⟨hfirst, _⟩, hmany⟩ := read_whatever_delivery 8 source plain
  exact ⟨hfirst.trans rfl, (hmany 3).1.trans rfl⟩

/-! ## Writing -/

theorem write_willing {payload : Bytes} (hl : payload.length ≤ longest) {s : Sink}
    (h : s.Willing) :
    (write payload s).1 = .ok () ∧
      (write payload s).2.taken.toList = s.taken.toList ++ encode payload ∧
      (write payload s).2.Willing := by
  rcases ofPayload_cases payload with ⟨_, parts, hparts, hflat, hne⟩ | ⟨hlt, _⟩
  · unfold write
    rw [hparts]
    dsimp only
    rw [writeOn_willing parts h hne, hflat]
    exact ⟨rfl, Array.toList_appendList, h.having _ _⟩
  · exact absurd hl (Nat.not_le.2 hlt)

/-- Willing output takes the payloads one after the other, each after its length. -/
theorem writeMany_willing {payloads : List Bytes}
    (hl : ∀ payload ∈ payloads, payload.length ≤ longest) {s : Sink} (h : s.Willing) :
    (writeMany payloads s).1 = .ok () ∧
      (writeMany payloads s).2.taken.toList = s.taken.toList ++ payloads.flatMap encode := by
  induction payloads generalizing s with
  | nil => exact ⟨rfl, (List.append_nil _).symm⟩
  | cons payload rest ih =>
    obtain ⟨hok, htaken, hwilling⟩ := write_willing (hl payload List.mem_cons_self) h
    obtain ⟨hall, hlast⟩ := ih (fun p hp => hl p (List.mem_cons_of_mem _ hp)) hwilling
    have hstep : writeMany (payload :: rest) s = writeMany rest (write payload s).2 := by
      simp only [writeMany]
      split
      · next s' hw => rw [hw]
      · next fault s' hw =>
        rw [hw] at hok
        cases hok
    rw [hstep]
    refine ⟨hall, ?_⟩
    rw [hlast, htaken, List.flatMap_cons, List.append_assoc]

/-! ## Round trip -/

theorem eq_nil_of_parse {limit : Nat} {bytes : Bytes} (h : (parse limit bytes).1 = .ok none) :
    bytes = [] := by
  unfold parse at h
  split at h
  · assumption
  · split at h
    · cases h
    · dsimp only at h
      split at h
      · cases h
      · unfold parsePayload at h
        split at h
        · cases h
        · cases h

/-- Reading gives some payloads and then the end exactly if the input is these payloads, none of
them too long, each after its length. -/
theorem readMany_eq_payloads_iff (limit : Nat) (payloads : List Bytes) {s : Source}
    (h : s.Plain) :
    (readMany limit (payloads.length + 1) s).1 =
        payloads.map (fun payload => .ok (some payload)) ++ [.ok none] ↔
      (∀ payload ∈ payloads, payload.length ≤ limit ∧ payload.length ≤ longest) ∧
        s.remaining = payloads.flatMap encode := by
  induction payloads generalizing s with
  | nil =>
    obtain ⟨hframe, _, _⟩ := read_plain limit h
    simp only [List.length_nil, List.map_nil, List.nil_append, readMany, hframe,
      List.flatMap_nil, List.not_mem_nil, false_implies, implies_true, true_and,
      List.cons.injEq, and_true]
    constructor
    · exact eq_nil_of_parse
    · intro hnil
      rw [hnil]
      rfl
  | cons payload rest ih =>
    obtain ⟨hframe, hrest, hplain⟩ := read_plain limit h
    have hrec := ih hplain
    rw [hrest] at hrec
    simp only [List.length_cons, List.map_cons, List.cons_append, List.flatMap_cons]
    rw [readMany]
    dsimp only
    rw [List.cons.injEq, hframe, hrec, List.forall_mem_cons]
    constructor
    · rintro ⟨hfirst, hfit, hbytes⟩
      obtain ⟨heq, hlimit, hlong⟩ := eq_encode_of_parse (Prod.ext hfirst rfl)
      exact ⟨⟨⟨hlimit, hlong⟩, hfit⟩, by rw [← hbytes]; exact heq⟩
    · rintro ⟨⟨⟨hlimit, hlong⟩, hfit⟩, hbytes⟩
      rw [hbytes, parse_encode hlimit hlong]
      exact ⟨rfl, hfit, rfl⟩

/-- **Reading undoes writing, and writing undoes reading.** Payloads that are not too long are
written to willing output, however little it takes at a time, as bytes from which reading gives
exactly these payloads and then the end, however the bytes are delivered. And wherever reading gives
some payloads and then the end, writing these gives back the bytes that were read. -/
theorem reading_undoes_writing (limit : Nat) (payloads : List Bytes) (sink : Sink)
    (willing : sink.Willing) :
    let written := writeMany payloads sink
    let answers : List (Except Fault (Option Bytes)) :=
      payloads.map (fun payload => .ok (some payload)) ++ [.ok none]
    ((∀ payload ∈ payloads, payload.length ≤ min limit 4294967295) →
        written.1 = .ok () ∧
          ∃ bytes, written.2.taken.toList = sink.taken.toList ++ bytes ∧
            ∀ source : Source, source.Plain → source.remaining = bytes →
              (readMany limit (payloads.length + 1) source).1 = answers) ∧
      ∀ source : Source, source.Plain →
        (readMany limit (payloads.length + 1) source).1 = answers →
          written.1 = .ok () ∧
            written.2.taken.toList = sink.taken.toList ++ source.remaining := by
  dsimp only
  constructor
  · intro hfit
    have hfits : ∀ payload ∈ payloads, payload.length ≤ limit ∧ payload.length ≤ longest := by
      intro payload hp
      exact Nat.le_min.1 (hfit payload hp)
    obtain ⟨hok, htaken⟩ := writeMany_willing (fun p hp => (hfits p hp).2) willing
    refine ⟨hok, _, htaken, ?_⟩
    intro source plain hbytes
    exact (readMany_eq_payloads_iff limit payloads plain).2 ⟨hfits, hbytes⟩
  · intro source plain hanswers
    obtain ⟨hfits, hbytes⟩ := (readMany_eq_payloads_iff limit payloads plain).1 hanswers
    obtain ⟨hok, htaken⟩ := writeMany_willing (fun p hp => (hfits p hp).2) willing
    exact ⟨hok, hbytes ▸ htaken⟩

/-- Two payloads, one of them empty, written byte by byte and read in two pieces. -/
theorem reading_undoes_writing_byte_by_byte :
    let sink : Sink := { room := fun _ => .ok 1, flushing := fun _ => .ok () }
    let source : Source := ⟨[.bytes [2, 0, 0], .interrupted, .bytes [0, 5, 6, 0, 0, 0, 0]]⟩
    (writeMany [[5, 6], []] sink).2.taken.toList = [2, 0, 0, 0, 5, 6, 0, 0, 0, 0] ∧
      (readMany 2 3 source).1 = [.ok (some [5, 6]), .ok (some []), .ok none] := by
  intro sink source
  have plain : source.Plain := by decide
  have willing : sink.Willing := ⟨fun _ => ⟨0, rfl⟩, fun _ => rfl⟩
  have hread : (readMany 2 3 source).1 = [.ok (some [5, 6]), .ok (some []), .ok none] :=
    (readMany_eq_payloads_iff 2 [[5, 6], []] plain).2 ⟨by decide, by decide⟩
  obtain ⟨hforth, hback⟩ := reading_undoes_writing 2 [[5, 6], []] sink willing
  obtain ⟨_, htaken⟩ := hback source plain hread
  obtain ⟨_, bytes, hwritten, hanswers⟩ := hforth (by decide)
  have hbytes : source.remaining = bytes :=
    List.append_cancel_left (htaken.symm.trans hwritten)
  exact ⟨htaken, hanswers source plain hbytes⟩

end StatusPanel.Frame
