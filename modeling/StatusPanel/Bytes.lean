/-!
# Byte strings

Byte strings are lists. Whole numbers of a fixed size are written with their least significant
byte first (`littleEndian`) or last (`bigEndian`).
-/

namespace StatusPanel

/-- A byte string. -/
abbrev Bytes := List UInt8

namespace Bytes

/-- The last `count` base-256 digits of a whole number, the least significant first. -/
def littleEndian : (count : Nat) → Nat → Bytes
  | 0, _ => []
  | count + 1, n => UInt8.ofNat n :: littleEndian count (n / 256)

/-- The last `count` base-256 digits of a whole number, the most significant first. -/
def bigEndian (count n : Nat) : Bytes :=
  (littleEndian count n).reverse

/-- The whole number whose base-256 digits are given, the least significant first. -/
def toLittleEndian : Bytes → Nat
  | [] => 0
  | b :: rest => b.toNat + 256 * toLittleEndian rest

/-- The whole number whose base-256 digits are given, the most significant first. -/
def toBigEndian (bytes : Bytes) : Nat :=
  bytes.foldl (fun n b => n * 256 + b.toNat) 0

theorem length_littleEndian (count n : Nat) : (littleEndian count n).length = count := by
  induction count generalizing n with
  | zero => rfl
  | succ count ih => simp [littleEndian, ih]

theorem toLittleEndian_littleEndian (count n : Nat) (h : n < 1 <<< (8 * count)) :
    toLittleEndian (littleEndian count n) = n := by
  induction count generalizing n with
  | zero =>
    simp only [littleEndian, toLittleEndian]
    rw [Nat.mul_zero, Nat.shiftLeft_zero] at h
    omega
  | succ count ih =>
    have hq : n / 256 < 1 <<< (8 * count) := by
      rw [Nat.mul_succ, Nat.one_shiftLeft, Nat.pow_add, Nat.mul_comm] at h
      rw [Nat.one_shiftLeft]
      exact Nat.div_lt_of_lt_mul h
    simp only [littleEndian, toLittleEndian, ih _ hq, UInt8.toNat_ofNat']
    omega

/-- The digits of the whole number that they stand for. -/
theorem littleEndian_toLittleEndian (bytes : Bytes) :
    littleEndian bytes.length (toLittleEndian bytes) = bytes := by
  induction bytes with
  | nil => rfl
  | cons b rest ih =>
    have hb := b.toNat_lt
    simp only [List.length_cons, littleEndian, toLittleEndian]
    rw [show (b.toNat + 256 * toLittleEndian rest) / 256 = toLittleEndian rest by omega, ih]
    congr 1
    apply UInt8.toNat_inj.1
    rw [UInt8.toNat_ofNat']
    omega

theorem toLittleEndian_lt (bytes : Bytes) : toLittleEndian bytes < 1 <<< (8 * bytes.length) := by
  induction bytes with
  | nil => decide
  | cons b rest ih =>
    have hb := b.toNat_lt
    rw [Nat.one_shiftLeft] at ih ⊢
    rw [List.length_cons, Nat.mul_succ, Nat.pow_add, toLittleEndian]
    omega

theorem length_bigEndian (count n : Nat) : (bigEndian count n).length = count := by
  rw [bigEndian, List.length_reverse, length_littleEndian]

/-- The one order of digits is the other one reversed. -/
theorem toBigEndian_reverse (bytes : Bytes) :
    toBigEndian bytes.reverse = toLittleEndian bytes := by
  induction bytes with
  | nil => rfl
  | cons b rest ih =>
    unfold toBigEndian at ih ⊢
    rw [List.reverse_cons, List.foldl_append, ih]
    simp only [List.foldl_cons, List.foldl_nil, toLittleEndian]
    omega

theorem toBigEndian_bigEndian (count n : Nat) (h : n < 1 <<< (8 * count)) :
    toBigEndian (bigEndian count n) = n := by
  rw [bigEndian, toBigEndian_reverse, toLittleEndian_littleEndian count n h]

/-- The bytes of a text. -/
def ofString (text : String) : Bytes :=
  text.toUTF8.toList

/-- The text that the bytes encode, if they are well-formed UTF-8. -/
def toString? (bytes : Bytes) : Option String :=
  String.fromUTF8? (ByteArray.mk bytes.toArray)

/-- The two lower-case hexadecimal digits of a byte. -/
def hexPair (b : UInt8) : List Char :=
  [Nat.digitChar (b.toNat / 16), Nat.digitChar (b.toNat % 16)]

/-- Hexadecimal text, two lower-case digits a byte. -/
def toHex (bytes : Bytes) : String :=
  String.ofList (bytes.flatMap hexPair)

/-- The value of a hexadecimal digit. -/
def hexDigit? (c : Char) : Option Nat :=
  if '0' ≤ c ∧ c ≤ '9' then some (c.toNat - '0'.toNat)
  else if 'a' ≤ c ∧ c ≤ 'f' then some (c.toNat - 'a'.toNat + 10)
  else if 'A' ≤ c ∧ c ≤ 'F' then some (c.toNat - 'A'.toNat + 10)
  else none

/-- The bytes that a hexadecimal text stands for. -/
def ofHex? (text : String) : Option Bytes :=
  pairs text.toList
where
  pairs : List Char → Option Bytes
    | [] => some []
    | [_] => none
    | a :: b :: rest => do
      let high ← hexDigit? a
      let low ← hexDigit? b
      return UInt8.ofNat (16 * high + low) :: (← pairs rest)

end Bytes

end StatusPanel
