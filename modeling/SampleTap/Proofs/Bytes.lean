import SampleTap.Bytes

/-!
# Reading bytes

Reads that look at the first bytes only, and the two byte orders side by side: an integer and its
bytes determine each other in either order (`littleEndian_littleNat`, `bigNat_inj`), so two words of
one width are equal exactly when their bytes are. Padding changes nothing of aligned bytes, and of
more bytes behind them it pads those (`pad_append_of_aligned`).
-/

namespace SampleTap
namespace Bytes

/-! ## Reads of the first bytes -/

/-- A word of two bytes is read if they are there, the low one first. -/
theorem word16?_eq_some_iff {data : Bytes} {w : UInt16} :
    word16? data = some w ↔ 2 ≤ data.length ∧ UInt16.ofNat (littleNat (data.take 2)) = w := by
  simp [word16?]

theorem word32?_eq_some_iff {data : Bytes} {w : UInt32} :
    word32? data = some w ↔ 4 ≤ data.length ∧ UInt32.ofNat (littleNat (data.take 4)) = w := by
  simp [word32?]

theorem isSome_word16?_iff {data : Bytes} : (word16? data).isSome ↔ 2 ≤ data.length := by
  simp [word16?]

theorem isSome_word32?_iff {data : Bytes} : (word32? data).isSome ↔ 4 ≤ data.length := by
  simp [word32?]

/-- A read of two bytes does not see what is behind them. -/
theorem word16?_append {data : Bytes} {w : UInt16} (tail : Bytes) (h : word16? data = some w) :
    word16? (data ++ tail) = some w := by
  obtain ⟨hlength, hw⟩ := word16?_eq_some_iff.mp h
  rw [word16?_eq_some_iff, List.take_append_of_le_length hlength]
  exact ⟨by rw [List.length_append]; omega, hw⟩

/-- A read of four bytes does not see what is behind them. -/
theorem word32?_append {data : Bytes} {w : UInt32} (tail : Bytes) (h : word32? data = some w) :
    word32? (data ++ tail) = some w := by
  obtain ⟨hlength, hw⟩ := word32?_eq_some_iff.mp h
  rw [word32?_eq_some_iff, List.take_append_of_le_length hlength]
  exact ⟨by rw [List.length_append]; omega, hw⟩

/-- A read of two bytes sees no more than two. -/
theorem word16?_take {n : Nat} (data : Bytes) (h : 2 ≤ n) :
    word16? (data.take n) = word16? data := by
  have hholds : holds 2 (data.take n) = holds 2 data := by
    rw [Bool.eq_iff_iff, holds_iff, holds_iff, List.length_take]
    omega
  rw [word16?, hholds, List.take_take, Nat.min_eq_left h, word16?]

/-- A read of four bytes sees no more than four. -/
theorem word32?_take (data : Bytes) : word32? (data.take 4) = word32? data := by
  have hholds : holds 4 (data.take 4) = holds 4 data := by
    rw [Bool.eq_iff_iff, holds_iff, holds_iff, List.length_take]
    omega
  rw [word32?, hholds, List.take_take, Nat.min_self, word32?]

/-- Bytes that are the same up to a place are the same up to one before it. -/
theorem take_congr {data data' : Bytes} {n m : Nat} (hle : n ≤ m)
    (h : data'.take m = data.take m) : data'.take n = data.take n := by
  have hfirst := congrArg (List.take n) h
  rwa [List.take_take, List.take_take, Nat.min_eq_left hle] at hfirst

theorem take_drop_congr {data data' : Bytes} {n m : Nat}
    (h : data'.take (n + m) = data.take (n + m)) :
    (data'.drop n).take m = (data.drop n).take m := by
  have hlater := congrArg (List.drop n) h
  rwa [List.drop_take, List.drop_take, Nat.add_sub_cancel_left] at hlater

/-! ## Padding -/

theorem pad_of_aligned {data : Bytes} (h : data.length % 4 = 0) : pad data = data := by
  have hnone : align data.length - data.length = 0 := by
    unfold align
    omega
  rw [pad, hnone, List.replicate_zero, List.append_nil]

/-- Padded bytes end on a multiple of four. -/
theorem length_pad_mod_four (data : Bytes) : (pad data).length % 4 = 0 := by
  rw [length_pad]
  exact align_mod_four data.length

/-- Padding is behind the last part if the others need none. -/
theorem pad_append_of_aligned {front : Bytes} (h : front.length % 4 = 0) (data : Bytes) :
    pad (front ++ data) = front ++ pad data := by
  have hmissing : align (front ++ data).length - (front ++ data).length =
      align data.length - data.length := by
    rw [List.length_append]
    unfold align
    omega
  rw [pad, hmissing, List.append_assoc, ← pad]

/-! ## Byte orders -/

/-- Writing the integer of a byte string gives the byte string back. -/
theorem littleEndian_littleNat (data : Bytes) :
    littleEndian data.length (littleNat data) = data := by
  induction data with
  | nil => rfl
  | cons b rest ih =>
    -- The remainder and the quotient by 256 are the first byte and the integer of the rest.
    have hb : UInt8.ofNat (b.toNat + 256 * littleNat rest) = b := by
      apply UInt8.toNat_inj.mp
      have := b.toNat_lt
      simp only [UInt8.toNat_ofNat']
      omega
    have hrest : (b.toNat + 256 * littleNat rest) / 256 = littleNat rest := by
      have := b.toNat_lt
      omega
    simp only [littleNat, List.length_cons, littleEndian]
    rw [hb, hrest, ih]

theorem littleNat_lt (data : Bytes) : littleNat data < limit data.length := by
  induction data with
  | nil => exact Nat.one_pos
  | cons b rest ih =>
    have := b.toNat_lt
    simp only [littleNat, List.length_cons, limit]
    omega

/-- Four bytes are those of a word exactly when they read as the word. -/
theorem eq_ofWord32_iff {data : Bytes} {w : UInt32} (hlength : data.length = 4) :
    data = ofWord32 w ↔ word32? data = some w := by
  constructor
  · intro h
    have hread := word32?_ofWord32_append w []
    rwa [List.append_nil, ← h] at hread
  · intro h
    obtain ⟨-, hw⟩ := word32?_eq_some_iff.mp h
    have hlt := littleNat_lt data
    rw [hlength] at hlt
    rw [List.take_of_length_le (Nat.le_of_eq hlength)] at hw
    have hround := littleEndian_littleNat data
    rw [hlength] at hround
    rw [← hw, ofWord32, UInt32.toNat_ofNat_of_lt' hlt, hround]

/-- What is read as two bytes are the two bytes of what was read. -/
theorem take_of_word16? {data : Bytes} {w : UInt16} (h : word16? data = some w) :
    data.take 2 = ofWord16 w := by
  obtain ⟨hlong, rfl⟩ := word16?_eq_some_iff.mp h
  have hlength : (data.take 2).length = 2 := List.length_take_of_le hlong
  have hlt := littleNat_lt (data.take 2)
  have hround := littleEndian_littleNat (data.take 2)
  rw [hlength] at hlt hround
  rw [ofWord16, UInt16.toNat_ofNat_of_lt' hlt, hround]

/-- What is read as four bytes are the four bytes of what was read. -/
theorem take_of_word32? {data : Bytes} {w : UInt32} (h : word32? data = some w) :
    data.take 4 = ofWord32 w := by
  have hlong : 4 ≤ data.length := (word32?_eq_some_iff.mp h).1
  rw [eq_ofWord32_iff (List.length_take_of_le hlong), word32?_take]
  exact h

theorem littleNat_eq_foldr (data : Bytes) :
    littleNat data = data.foldr (fun b n => b.toNat + 256 * n) 0 := by
  induction data with
  | nil => rfl
  | cons b rest ih => rw [littleNat, ih, List.foldr_cons]

/-- Read with the highest byte first, a byte string is the string backwards. -/
theorem bigNat_eq_littleNat_reverse (data : Bytes) : bigNat data = littleNat data.reverse := by
  simp only [bigNat, littleNat_eq_foldr, List.foldr_reverse, Nat.add_comm]

theorem bigNat_lt (data : Bytes) : bigNat data < limit data.length := by
  rw [bigNat_eq_littleNat_reverse, ← List.length_reverse]
  exact littleNat_lt data.reverse

/-- Byte strings of one length are told apart by their integers. -/
theorem bigNat_inj {data data' : Bytes} (hlength : data.length = data'.length) :
    bigNat data = bigNat data' ↔ data = data' := by
  refine ⟨fun h => ?_, congrArg bigNat⟩
  rw [bigNat_eq_littleNat_reverse, bigNat_eq_littleNat_reverse] at h
  -- Written out again, the equal integers give equal strings.
  have hreverse : data.reverse = data'.reverse := by
    rw [← littleEndian_littleNat data.reverse, h, List.length_reverse, hlength,
      ← List.length_reverse, littleEndian_littleNat]
  exact List.reverse_inj.mp hreverse

end Bytes
end SampleTap
