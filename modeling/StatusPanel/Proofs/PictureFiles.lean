import Mathlib.Data.Option.Basic
import StatusPanel.Png.Reader
import StatusPanel.Png.Writer

/-!
# Picture files

Nothing of a picture is lost in its file: reading a file that was written gives the picture again
(`read_write`). Each layer of the file is undone on its own: plain blocks (`inflate?_store`), chunks
(`readHead_encode`, `readBody_encode`, `readChunks_imageChunks`) and rows (`readRows?_rowBytes`).
What is read stands in front of any further bytes, so that the layers can be put together.
-/

namespace StatusPanel

/-! ## Plain blocks -/

namespace Deflate

/-- A block of plain bytes. -/
def plainBlock (last : Bool) (part : Bytes) : Bytes :=
  (if last then 1 else 0) :: (Bytes.littleEndian 2 part.length ++
    (Bytes.littleEndian 2 (65535 - part.length) ++ part))

theorem store_last {data : Bytes} (h : data.length ≤ plainLimit) :
    store data = plainBlock true data := by
  rw [store]
  simp [plainBlock, h, List.take_of_length_le h]

theorem store_more {data : Bytes} (h : plainLimit < data.length) :
    store data =
      plainBlock false (data.take plainLimit) ++ store (data.drop plainLimit) := by
  rw [store]
  simp [plainBlock, Nat.not_le.2 h]

theorem length_drop_plainLimit_lt {data : Bytes} (h : plainLimit < data.length) :
    (data.drop plainLimit).length < data.length := by
  unfold plainLimit at h ⊢
  rw [List.length_drop]
  omega

theorem readPlain?_plain {part : Bytes} (h : part.length ≤ plainLimit) (rest : Bytes)
    (out : Array UInt8) :
    readPlain? (Bytes.littleEndian 2 part.length ++
      (Bytes.littleEndian 2 (65535 - part.length) ++ (part ++ rest))) out =
      some (out ++ part, ⟨[], rest⟩) := by
  have hlength := Bytes.toLittleEndian_littleEndian 2 part.length (Nat.lt_succ_of_le h)
  have hcomplement := Bytes.toLittleEndian_littleEndian 2 (65535 - part.length)
    (Nat.lt_succ_of_le (Nat.sub_le ..))
  simp only [Bytes.littleEndian] at hlength hcomplement ⊢
  simp [readPlain?, hlength, hcomplement]

/-- A plain block is read as what it holds. -/
theorem readBlock?_plainBlock (last : Bool) {part : Bytes} (h : part.length ≤ plainLimit)
    (rest : Bytes) (out : Array UInt8) :
    readBlock? ⟨[], plainBlock last part ++ rest⟩ out = some (last, out ++ part, ⟨[], rest⟩) := by
  -- the mark of the last block is the lowest bit of the first byte, and plain bytes are kind zero
  have hbits : bitsOf (if last then 1 else 0) = last :: List.replicate 7 false := by
    cases last <;> decide
  have hplain := readPlain?_plain h rest out
  simp [plainBlock, readBlock?, Bits.next?, Bits.number?, hbits, List.replicate, hplain]

theorem lt_length_store (data : Bytes) : data.length < (store data).length := by
  induction hlength : data.length using Nat.strongRecOn generalizing data with
  | ind _ ih =>
    subst hlength
    by_cases h : data.length ≤ plainLimit
    · rw [store_last h]
      simp only [plainBlock, List.length_cons, List.length_append]
      omega
    · have hmore := Nat.lt_of_not_le h
      have hrest := ih _ (length_drop_plainLimit_lt hmore) _ rfl
      rw [store_more hmore]
      simp only [plainBlock, List.cons_append, List.length_cons, List.length_append,
        List.length_take, List.length_drop] at hrest ⊢
      omega

/-- Each block takes some of the data, so that more rounds than there are data suffice. -/
theorem readBlocks?_store (data rest : Bytes) {fuel : Nat} (h : data.length < fuel)
    (out : Array UInt8) :
    readBlocks? fuel ⟨[], store data ++ rest⟩ out = some (out ++ data) := by
  induction hlength : data.length using Nat.strongRecOn generalizing data fuel out with
  | ind _ ih =>
    subst hlength
    obtain ⟨fuel, rfl⟩ := Nat.exists_eq_succ_of_ne_zero (Nat.ne_zero_of_lt h)
    by_cases hlast : data.length ≤ plainLimit
    · rw [store_last hlast, readBlocks?, readBlock?_plainBlock true hlast]
      rfl
    · have hmore := Nat.lt_of_not_le hlast
      have hpart : (data.take plainLimit).length ≤ plainLimit := List.length_take_le ..
      have hless := length_drop_plainLimit_lt hmore
      rw [store_more hmore, List.append_assoc, readBlocks?, readBlock?_plainBlock false hpart]
      simp only [Option.bind_eq_bind, Option.bind_some, Bool.false_eq_true, if_false]
      rw [ih _ hless _ (by omega) _ rfl]
      refine congrArg some (Array.toList_inj.1 ?_)
      simp

/-- **Data that are stored are read again.** -/
theorem inflate?_store (data rest : Bytes) : inflate? (store data ++ rest) = some data := by
  have hlength := lt_length_store data
  unfold inflate?
  rw [readBlocks?_store data rest (by rw [List.length_append]; omega)]
  simp

end Deflate

namespace Png

/-- **Data that are compressed are read again.** -/
theorem decompress?_compress (data : Bytes) : decompress? (compress data) = some data := by
  simp only [compress, List.cons_append, List.nil_append, decompress?]
  rw [if_pos (by decide), Deflate.inflate?_store]

/-! ## Chunks -/

theorem cyclicChecksum_lt (bytes : Bytes) : cyclicChecksum bytes < 1 <<< (8 * 4) :=
  UInt32.toNat_lt _

/-- What follows the data of a chunk. -/
def Chunk.checksum (c : Chunk) : Bytes :=
  Bytes.bigEndian 4 (cyclicChecksum (c.name ++ c.data))

section

variable (c : Chunk) (rest : Bytes)

/-- The length and the name of a chunk that was written. -/
theorem readHead_encode (hname : c.name.length = 4) (hdata : c.data.length < 1 <<< 32) :
    readHead (c.encode ++ rest) =
      .ok (c.data.length, c.name, c.data ++ (c.checksum ++ rest)) := by
  have hlength := Bytes.length_bigEndian 4 c.data.length
  have hhead : 8 ≤ (c.encode ++ rest).length := by
    simp only [Chunk.encode, List.length_append, hlength, hname]
    omega
  rw [readHead, if_pos hhead]
  simp only [Chunk.encode, List.append_assoc]
  rw [List.take_left' hlength, List.drop_left' hlength, List.take_left' hname,
    Bytes.toBigEndian_bigEndian 4 _ hdata, ← List.append_assoc _ c.name,
    List.drop_left' (by rw [List.length_append, hlength, hname])]
  rfl

/-- The data of a chunk that was written. -/
theorem readBody_encode :
    readBody c.data.length c.name (c.data ++ (c.checksum ++ rest)) = .ok (c.data, rest) := by
  have hlength : c.checksum.length = 4 := Bytes.length_bigEndian 4 _
  have hchecksum : Bytes.toBigEndian c.checksum = cyclicChecksum (c.name ++ c.data) :=
    Bytes.toBigEndian_bigEndian 4 _ (cyclicChecksum_lt _)
  have hbody : c.data.length + 4 ≤ (c.data ++ (c.checksum ++ rest)).length := by
    simp only [List.length_append, hlength]
    omega
  rw [readBody, if_pos hbody]
  simp only [List.take_left, List.drop_left, List.take_left' hlength, List.drop_left' hlength,
    hchecksum, bne_self_eq_false, Bool.and_false, Bool.false_eq_true, if_false]

end

/-- One chunk of pixels, and whether there are more of them. -/
theorem readPixels_eq {length next : Nat} {bytes data rest name after : Bytes}
    (hbody : readBody length Chunk.image bytes = .ok (data, rest))
    (hhead : readHead rest = .ok (next, name, after)) :
    readPixels length bytes =
      if name = Chunk.image then (readPixels next after).map fun more => data ++ more
      else .ok data := by
  rw [readPixels]
  split
  · next h =>
    rw [hbody] at h
    cases h
  · next h =>
    rw [hbody] at h
    cases h
    split
    · next h' =>
      rw [hhead] at h'
      cases h'
    · next h' =>
      rw [hhead] at h'
      cases h'
      rfl

theorem length_header : Chunk.header.length = 4 := by decide +kernel

theorem length_image : Chunk.image.length = 4 := by decide +kernel

theorem imageChunks_last {data : Bytes} (h : data.length ≤ chunkLimit) :
    imageChunks data = (Chunk.mk Chunk.image data).encode := by
  rw [imageChunks, if_pos h, List.take_of_length_le h, List.append_nil]

theorem imageChunks_more {data : Bytes} (h : chunkLimit < data.length) :
    imageChunks data = (Chunk.mk Chunk.image (data.take chunkLimit)).encode ++
      imageChunks (data.drop chunkLimit) := by
  rw [imageChunks, if_neg (Nat.not_le.2 h)]

/-- **Pixels that are spread over chunks are put together again.** -/
theorem readPixels_imageChunks (data : Bytes) {tail name after : Bytes} {length : Nat}
    (hhead : readHead tail = .ok (length, name, after)) (hname : name ≠ Chunk.image) :
    ∃ first rest, readHead (imageChunks data ++ tail) = .ok (first, Chunk.image, rest) ∧
      readPixels first rest = .ok data := by
  induction hlength : data.length using Nat.strongRecOn generalizing data with
  | ind _ ih =>
    subst hlength
    by_cases h : data.length ≤ chunkLimit
    · refine ⟨_, _, ?_,
        (readPixels_eq (readBody_encode ⟨Chunk.image, data⟩ _) hhead).trans (if_neg hname)⟩
      rw [imageChunks_last h]
      exact readHead_encode ⟨Chunk.image, data⟩ _ length_image (Nat.lt_of_le_of_lt h (by decide))
    · have hmore := Nat.lt_of_not_le h
      have hless : (data.drop chunkLimit).length < data.length := by
        unfold chunkLimit at hmore ⊢
        rw [List.length_drop]
        omega
      have hpart : (data.take chunkLimit).length ≤ chunkLimit := List.length_take_le ..
      obtain ⟨next, rest, hnext, hrest⟩ := ih _ hless _ rfl
      refine ⟨_, _, ?_,
        (readPixels_eq (readBody_encode ⟨Chunk.image, data.take chunkLimit⟩ _) hnext).trans ?_⟩
      · rw [imageChunks_more hmore, List.append_assoc]
        exact readHead_encode ⟨Chunk.image, data.take chunkLimit⟩ _ length_image
          (Nat.lt_of_le_of_lt hpart (by decide))
      · rw [if_pos rfl, hrest]
        exact congrArg Except.ok (List.take_append_drop ..)

/-- The chunks of a file after its measures. -/
theorem readChunks_imageChunks (data : Bytes) :
    readChunks none (imageChunks data ++ (Chunk.mk Chunk.finish []).encode) = .ok (none, data) := by
  have hfinish := readHead_encode ⟨Chunk.finish, []⟩ [] (by decide +kernel) (by decide)
  rw [List.append_nil] at hfinish
  obtain ⟨first, rest, hhead, hpixels⟩ := readPixels_imageChunks data hfinish (by decide +kernel)
  rw [readChunks]
  split
  · next h =>
    rw [hhead] at h
    cases h
  · next h =>
    rw [hhead] at h
    cases h
    rw [if_pos rfl, hpixels]
    rfl

/-! ## Rows -/

theorem foldl_push (row : Array UInt8) (bytes : Bytes) :
    bytes.foldl Array.push row = row ++ bytes := by
  induction bytes generalizing row with
  | nil => simp
  | cons b rest ih => simp [ih]

/-- The filter that does nothing. -/
theorem unfilter_zero (stride : Nat) (above : Array UInt8) (bytes : Bytes) :
    unfilter (fun _ _ _ => 0) stride above bytes = bytes.toArray := by
  simp only [unfilter, Nat.add_zero, UInt8.ofNat_toNat]
  rw [foldl_push]
  simp

theorem length_flatMap_sampleBytes (row : List Color) :
    (row.flatMap sampleBytes).length = 4 * row.length := by
  induction row with
  | nil => rfl
  | cons color rest ih =>
    rw [List.flatMap_cons, List.length_append, ih, List.length_cons]
    simp only [sampleBytes, List.length_cons, List.length_nil]
    omega

/-- Some rows of pixels, so many in each. -/
def pixelRows (width : Nat) (pixels : List Color) : (height : Nat) → List (List Color)
  | 0 => []
  | height + 1 => pixels.take width :: pixelRows width (pixels.drop width) height

variable {width height : Nat} {pixels : List Color}

/-- **Rows that were written are read again.** -/
theorem readRows?_rowBytes (above : Array UInt8) (h : pixels.length = width * height) :
    readRows? (4 * width) 4 above (rowBytes width pixels height) height =
      some ((pixelRows width pixels height).map fun row => (row.flatMap sampleBytes).toArray) := by
  induction height generalizing pixels above with
  | zero => rfl
  | succ height ih =>
    rw [Nat.mul_succ] at h
    have hrow : ((pixels.take width).flatMap sampleBytes).length = 4 * width := by
      rw [length_flatMap_sampleBytes, List.length_take, Nat.min_eq_left (by omega)]
    have hrest : (pixels.drop width).length = width * height := by
      rw [List.length_drop]
      omega
    have hlong : guard (4 * width ≤ ((pixels.take width).flatMap sampleBytes ++
        rowBytes width (pixels.drop width) height).length) = some () :=
      (Option.guard_eq_some' ()).2 (by rw [List.length_append, hrow]; omega)
    simp only [rowBytes, List.cons_append, readRows?, hlong, List.take_left' hrow,
      List.drop_left' hrow, ih _ hrest, pixelRows, List.map_cons]
    simp [guess?, unfilter_zero]

theorem length_of_mem_pixelRows {row : List Color} (h : pixels.length = width * height)
    (hrow : row ∈ pixelRows width pixels height) : row.length = width := by
  induction height generalizing pixels with
  | zero => cases hrow
  | succ height ih =>
    rw [Nat.mul_succ] at h
    rcases List.mem_cons.1 hrow with rfl | hrest
    · rw [List.length_take, Nat.min_eq_left (by omega)]
    · refine ih ?_ hrest
      rw [List.length_drop]
      omega

theorem length_pixelRows : (pixelRows width pixels height).length = height := by
  induction height generalizing pixels with
  | zero => rfl
  | succ height ih => rw [pixelRows, List.length_cons, ih]

theorem flatten_pixelRows (h : pixels.length = width * height) :
    (pixelRows width pixels height).flatten = pixels := by
  induction height generalizing pixels with
  | zero => exact (List.length_eq_zero_iff.1 h).symm
  | succ height ih =>
    rw [Nat.mul_succ] at h
    have hrest : (pixels.drop width).length = width * height := by
      rw [List.length_drop]
      omega
    rw [pixelRows, List.flatten_cons, ih hrest, List.take_append_drop]

/-- The samples of a pixel stand where the pixel is looked for. -/
theorem pixel_flatMap_sampleBytes (palette : Array Color) {row : List Color} {column : Nat}
    {color : Color} (h : row[column]? = some color) :
    ColorType.rgba.pixel palette (row.flatMap sampleBytes).toArray column = color := by
  have hsample (k : Nat) (hk : k < 4) :
      (row.flatMap sampleBytes)[4 * column + k]? = (sampleBytes color)[k]? := by
    induction row generalizing column with
    | nil => cases h
    | cons first rest ih =>
      have hfirst : (sampleBytes first).length = 4 := rfl
      rw [List.flatMap_cons]
      cases column with
      | zero =>
        cases h
        rw [List.getElem?_append_left (by omega), Nat.mul_zero, Nat.zero_add]
      | succ column =>
        rw [List.getElem?_append_right (by omega), hfirst,
          show 4 * (column + 1) + k - 4 = 4 * column + k by omega]
        exact ih h
  have hred := hsample 0 (by decide)
  rw [Nat.add_zero] at hred
  simp only [ColorType.pixel, List.getElem?_toArray, hred, hsample 1 (by decide),
    hsample 2 (by decide), hsample 3 (by decide)]
  rfl

theorem map_pixel_flatMap_sampleBytes (palette : Array Color) {row : List Color}
    (h : row.length = width) :
    (List.range width).map (ColorType.rgba.pixel palette (row.flatMap sampleBytes).toArray) =
      row := by
  apply List.ext_getElem
  · rw [List.length_map, List.length_range, h]
  · intro column _ hcolumn
    rw [List.getElem_map, List.getElem_range]
    exact pixel_flatMap_sampleBytes palette (List.getElem?_eq_getElem hcolumn)

theorem map_pixel_pixelRows (palette : Array Color) (h : pixels.length = width * height) :
    (((pixelRows width pixels height).map fun row => (row.flatMap sampleBytes).toArray).map
      fun row => (List.range width).map (ColorType.rgba.pixel palette row)) =
      pixelRows width pixels height := by
  rw [List.map_map]
  refine (List.map_congr_left fun row hrow => ?_).trans (List.map_id _)
  exact map_pixel_flatMap_sampleBytes palette (length_of_mem_pixelRows h hrow)

/-! ## The file -/

theorem readHeader_headerBytes (hwidth : 0 < width ∧ width < 1 <<< 32)
    (hheight : 0 < height ∧ height < 1 <<< 32) :
    readHeader (headerBytes width height) = .ok ⟨width, height, .rgba⟩ := by
  have hw : Bytes.toBigEndian (Bytes.bigEndian 4 width) = width :=
    Bytes.toBigEndian_bigEndian 4 _ hwidth.2
  have hh : Bytes.toBigEndian (Bytes.bigEndian 4 height) = height :=
    Bytes.toBigEndian_bigEndian 4 _ hheight.2
  simp only [Bytes.bigEndian, Bytes.littleEndian, List.reverse_cons, List.reverse_nil,
    List.nil_append, List.cons_append] at hw hh
  simp only [headerBytes, Bytes.bigEndian, Bytes.littleEndian, List.reverse_cons,
    List.reverse_nil, List.nil_append, List.cons_append, readHeader, hw, hh]
  rw [show ColorType.ofNumbers? (UInt8.toNat 6) (UInt8.toNat 8) = some .rgba by decide]
  dsimp only
  rw [if_neg (by omega), if_neg (by decide)]

theorem rowLength_rgba (width : Nat) : ColorType.rgba.rowLength width = 4 * width := by
  simp only [ColorType.rowLength, ColorType.bits]
  omega

theorem ofRows_eq {p : Picture} {rows : List (List Color)} (h : ∀ row ∈ rows, row.length = p.width)
    (hlength : rows.length = p.height) (hflatten : rows.flatten = p.pixels.toList) :
    ofRows p.width rows h = p := by
  obtain ⟨width, height, pixels, hsize⟩ := p
  cases hlength
  simp only [ofRows, hflatten, Array.toArray_toList]

/-- **A picture that was written is read again.** -/
theorem read_write (p : Picture) (hwidth : 0 < p.width ∧ p.width < 1 <<< 32)
    (hheight : 0 < p.height ∧ p.height < 1 <<< 32) : read (write p) = .ok p := by
  have hpixels : p.pixels.toList.length = p.width * p.height := by
    rw [Array.length_toList, p.size_pixels]
  have hchunks := readChunks_imageChunks (compress (rowBytes p.width p.pixels.toList p.height))
  have hwrite : write p = signature ++
      ((Chunk.mk Chunk.header (headerBytes p.width p.height)).encode ++
        (imageChunks (compress (rowBytes p.width p.pixels.toList p.height)) ++
          (Chunk.mk Chunk.finish []).encode)) := by
    simp only [write, List.append_assoc]
  generalize imageChunks (compress (rowBytes p.width p.pixels.toList p.height)) ++
    (Chunk.mk Chunk.finish []).encode = tail at hchunks hwrite
  have hsignature : signature.length = 8 := rfl
  have hsize : (headerBytes p.width p.height).length < 1 <<< 32 := by
    simp [headerBytes, Bytes.length_bigEndian]
  have hhead := readHead_encode ⟨Chunk.header, headerBytes p.width p.height⟩ tail length_header
    hsize
  have hbody := readBody_encode ⟨Chunk.header, headerBytes p.width p.height⟩ tail
  dsimp only at hhead hbody
  rw [hwrite]
  unfold read
  rw [List.take_left' hsignature, List.drop_left' hsignature, if_neg (by simp), hhead]
  simp only [bind, Except.bind]
  rw [if_neg (by simp), hbody]
  simp only [readHeader_headerBytes hwidth hheight, hchunks]
  rw [if_neg (by simp [ColorType.needsPalette]), decompress?_compress]
  dsimp only
  rw [rowLength_rgba, show ColorType.rgba.stride = 4 from rfl, readRows?_rowBytes #[] hpixels]
  refine congrArg Except.ok (ofRows_eq _ ?_ ?_)
  · rw [map_pixel_pixelRows _ hpixels, length_pixelRows]
  · rw [map_pixel_pixelRows _ hpixels, flatten_pixelRows hpixels]

end Png

end StatusPanel
