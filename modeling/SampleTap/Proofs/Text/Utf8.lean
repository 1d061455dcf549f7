import SampleTap.Attribute.Value

/-!
# Texts and their bytes

The bytes of a text are those of its characters (`ofText_eq_flatMap`), they spell the text again
(`Utf8.decode_ofText`), and a byte of seven bits among them comes from the character of that code
(`mem_ofText_iff`). So a payload that holds a text and then a zero byte is read as the text,
when there is no zero character in it (`Attribute.readText_terminated`).
-/

namespace SampleTap

namespace Bytes

theorem toList_loop (data : ByteArray) (i : Nat) (front : Bytes) :
    ByteArray.toList.loop data i front = front.reverse ++ data.data.toList.drop i := by
  fun_induction ByteArray.toList.loop data i front with
  | case1 i front hlt ih =>
    have hlt' : i < data.data.toList.length := hlt
    have hget : data.get! i = data.data.toList[i] := by
      show data.data[i]! = _
      rw [getElem!_pos data.data i hlt, Array.getElem_toList]
    rw [ih, List.drop_eq_getElem_cons hlt', hget, List.reverse_cons, List.append_assoc,
      List.singleton_append]
  | case2 i front hend =>
    rw [List.drop_of_length_le (Nat.le_of_not_lt hend), List.append_nil]

theorem ofText_eq_data (text : String) : ofText text = text.toByteArray.data.toList := by
  show ByteArray.toList.loop text.toByteArray 0 [] = _
  rw [toList_loop, List.reverse_nil, List.nil_append, List.drop_zero]

/-- The bytes of a text are those of its characters, one after the other. -/
theorem ofText_eq_flatMap (text : String) :
    ofText text = text.toList.flatMap String.utf8EncodeChar := by
  have hbytes : text.toByteArray = text.toList.utf8Encode := by
    rw [← String.toByteArray_ofList, String.ofList_toList]
  rw [ofText_eq_data, hbytes, List.utf8Encode, List.toList_data_toByteArray]

/-- A byte of seven bits stands for its own character only. -/
theorem mem_utf8EncodeChar_iff {b : UInt8} (hb : b.toNat < 0x80) {c : Char} :
    b ∈ String.utf8EncodeChar c ↔ c.toNat = b.toNat := by
  have hvalue : c.val.toNat = c.toNat := rfl
  fun_cases String.utf8EncodeChar c
  all_goals
    simp only [List.mem_cons, List.not_mem_nil, or_false, ← UInt8.toNat_inj, UInt8.toNat_ofNat']
    omega

/-- A byte of the lower half stands for its own character only. -/
theorem mem_ofText_iff {b : UInt8} (hb : b.toNat < 0x80) {text : String} :
    b ∈ ofText text ↔ ∃ c ∈ text.toList, c.toNat = b.toNat := by
  rw [ofText_eq_flatMap, List.mem_flatMap]
  simp only [mem_utf8EncodeChar_iff hb]

theorem ofText_append (text text' : String) :
    ofText (text ++ text') = ofText text ++ ofText text' := by
  rw [ofText_eq_flatMap, String.toList_append, List.flatMap_append, ← ofText_eq_flatMap,
    ← ofText_eq_flatMap]

end Bytes

/-- The bytes of a text spell the text. -/
theorem Utf8.decode_ofText (text : String) : decode (Bytes.ofText text) = .ok text := by
  have hbytes : (Bytes.ofText text).toByteArray = text.toByteArray := by
    rw [Bytes.ofText_eq_data, ByteArray.ext_iff, List.data_toByteArray, Array.toArray_toList]
  have hread : String.fromUTF8? text.toByteArray = some text := dif_pos text.isValidUTF8
  rw [decode, hbytes, hread]

/-- A text without a zero character is read up to the zero byte that ends it. -/
theorem Attribute.readText_terminated {text : String} (h : ∀ c ∈ text.toList, c.toNat ≠ 0) :
    readText (Bytes.ofText text ++ [0]) = .ok text := by
  have hzero : ∀ b ∈ Bytes.ofText text, (b != 0) = true := by
    intro b hb
    rw [bne_iff_ne]
    rintro rfl
    obtain ⟨c, hc, hzero⟩ := (Bytes.mem_ofText_iff (by decide)).mp hb
    exact h c hc hzero
  have htext : textBytes (Bytes.ofText text ++ [0]) = Bytes.ofText text := by
    rw [textBytes, List.takeWhile_append_of_pos hzero]
    exact List.append_nil _
  rw [readText, htext, Utf8.decode_ofText]

end SampleTap
