/-!
# Byte strings

Datagrams, attribute payloads and pieces of files are lists of bytes. This module holds what every
format of the library shares:

* the four-byte alignment of messages and attributes (`align`, `pad`);
* integers in either byte order (`littleEndian`, `littleNat`, `bigNat`), with the law that reading
  what was written gives the integer back (`littleNat_littleEndian`);
* reads of a fixed number of bytes (`word16?`, `word32?`, `word64?`), which look only at the bytes
  they need.
-/

namespace SampleTap

/-- A byte string: a datagram, an attribute payload, a piece of a file. -/
abbrev Bytes := List UInt8

namespace Bytes

/-! ## Alignment -/

/-- `n` rounded up to a multiple of four. -/
def align (n : Nat) : Nat := (n + 3) / 4 * 4

theorem le_align (n : Nat) : n ≤ align n := by
  unfold align; omega

theorem align_mod_four (n : Nat) : align n % 4 = 0 := by
  unfold align; omega

/-- `data` followed by the zero bytes that bring its length to a multiple of four. -/
def pad (data : Bytes) : Bytes :=
  data ++ List.replicate (align data.length - data.length) 0

@[simp] theorem length_pad (data : Bytes) : (pad data).length = align data.length := by
  have := le_align data.length
  simp only [pad, List.length_append, List.length_replicate]
  omega

/-! ## Lengths -/

/-- Whether `data` has at least `n` bytes; no more than `n` of them are looked at. -/
def holds : Nat → Bytes → Bool
  | 0, _ => true
  | _ + 1, [] => false
  | n + 1, _ :: rest => holds n rest

@[simp] theorem holds_iff {n : Nat} {data : Bytes} : holds n data = true ↔ n ≤ data.length := by
  induction n generalizing data with
  | zero => simp [holds]
  | succ n ih => cases data <;> simp [holds, ih]

theorem holds_eq_false_iff {n : Nat} {data : Bytes} :
    holds n data = false ↔ data.length < n := by
  rw [← Bool.not_eq_true, holds_iff, Nat.not_le]

/-! ## Integers -/

/-- The `width` low-order bytes of `n`, the lowest first. -/
def littleEndian : Nat → Nat → Bytes
  | 0, _ => []
  | width + 1, n => UInt8.ofNat n :: littleEndian width (n / 256)

/-- The integer whose bytes are `data`, the lowest first. -/
def littleNat : Bytes → Nat
  | [] => 0
  | b :: rest => b.toNat + 256 * littleNat rest

/-- The integer whose bytes are `data`, the highest first. -/
def bigNat (data : Bytes) : Nat :=
  data.foldl (fun n b => 256 * n + b.toNat) 0

@[simp] theorem length_littleEndian (width n : Nat) : (littleEndian width n).length = width := by
  induction width generalizing n with
  | zero => rfl
  | succ width ih => simp [littleEndian, ih]

/-- The first integer that `width` bytes cannot hold. -/
def limit : Nat → Nat
  | 0 => 1
  | width + 1 => 256 * limit width

/-- Reading the low-order bytes of `n` gives `n` back, cut to their width. -/
theorem littleNat_littleEndian (width n : Nat) :
    littleNat (littleEndian width n) = n % limit width := by
  induction width generalizing n with
  | zero => simp [littleEndian, littleNat, limit, Nat.mod_one]
  | succ width ih =>
    have hb : (UInt8.ofNat n).toNat = n % 256 := by simp
    rw [littleEndian, littleNat, ih, hb, limit, Nat.mod_mul]

/-- The first two bytes as an integer in host order. -/
def word16? (data : Bytes) : Option UInt16 :=
  if holds 2 data then some (UInt16.ofNat (littleNat (data.take 2))) else none

/-- The first four bytes as an integer in host order. -/
def word32? (data : Bytes) : Option UInt32 :=
  if holds 4 data then some (UInt32.ofNat (littleNat (data.take 4))) else none

/-- The first eight bytes as an integer in host order. -/
def word64? (data : Bytes) : Option UInt64 :=
  if holds 8 data then some (UInt64.ofNat (littleNat (data.take 8))) else none

/-- The two bytes of `w` in host order. -/
def ofWord16 (w : UInt16) : Bytes := littleEndian 2 w.toNat

/-- The four bytes of `w` in host order. -/
def ofWord32 (w : UInt32) : Bytes := littleEndian 4 w.toNat

/-- The eight bytes of `w` in host order. -/
def ofWord64 (w : UInt64) : Bytes := littleEndian 8 w.toNat

@[simp] theorem length_ofWord16 (w : UInt16) : (ofWord16 w).length = 2 := length_littleEndian ..

@[simp] theorem length_ofWord32 (w : UInt32) : (ofWord32 w).length = 4 := length_littleEndian ..

@[simp] theorem length_ofWord64 (w : UInt64) : (ofWord64 w).length = 8 := length_littleEndian ..

/-- A word that was written reads back, whatever follows it. -/
theorem word16?_ofWord16_append (w : UInt16) (rest : Bytes) :
    word16? (ofWord16 w ++ rest) = some w := by
  have h : holds 2 (ofWord16 w ++ rest) = true := by simp
  have h' : (ofWord16 w ++ rest).take 2 = ofWord16 w := by
    rw [List.take_append_of_le_length (by simp), List.take_of_length_le (by simp)]
  have hw : w.toNat % limit 2 = w.toNat := Nat.mod_eq_of_lt w.toNat_lt
  rw [word16?, if_pos h, h', ofWord16, littleNat_littleEndian, hw, UInt16.ofNat_toNat]

/-- A word that was written reads back, whatever follows it. -/
theorem word32?_ofWord32_append (w : UInt32) (rest : Bytes) :
    word32? (ofWord32 w ++ rest) = some w := by
  have h : holds 4 (ofWord32 w ++ rest) = true := by simp
  have h' : (ofWord32 w ++ rest).take 4 = ofWord32 w := by
    rw [List.take_append_of_le_length (by simp), List.take_of_length_le (by simp)]
  have hw : w.toNat % limit 4 = w.toNat := Nat.mod_eq_of_lt w.toNat_lt
  rw [word32?, if_pos h, h', ofWord32, littleNat_littleEndian, hw, UInt32.ofNat_toNat]

/-- A word that was written reads back, whatever follows it. -/
theorem word64?_ofWord64_append (w : UInt64) (rest : Bytes) :
    word64? (ofWord64 w ++ rest) = some w := by
  have h : holds 8 (ofWord64 w ++ rest) = true := by simp
  have h' : (ofWord64 w ++ rest).take 8 = ofWord64 w := by
    rw [List.take_append_of_le_length (by simp), List.take_of_length_le (by simp)]
  have hw : w.toNat % limit 8 = w.toNat := Nat.mod_eq_of_lt w.toNat_lt
  rw [word64?, if_pos h, h', ofWord64, littleNat_littleEndian, hw, UInt64.ofNat_toNat]

/-- The first four bytes as a signed integer in host order. -/
def int32? (data : Bytes) : Option Int32 :=
  (word32? data).map UInt32.toInt32

/-! ## Text forms -/

/-- The lower-case hexadecimal digit of `n`, for `n` below sixteen. -/
def hexDigit (n : Nat) : Char :=
  if n < 10 then Char.ofNat (48 + n) else Char.ofNat (87 + n)

/-- Two lower-case hexadecimal digits per byte. -/
def hex (data : Bytes) : String :=
  String.ofList (data.flatMap fun b => [hexDigit (b.toNat / 16), hexDigit (b.toNat % 16)])

/-- The bytes of `text` in UTF-8. -/
def ofText (text : String) : Bytes := text.toUTF8.toList

end Bytes

end SampleTap
