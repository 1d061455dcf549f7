import SampleTap.Bpf
import SampleTap.Proofs.Attribute.Walk

/-!
# Filters at work

The attribute search of a filter program goes by offsets into the packet. It walks the packet as
`Attribute.step` takes attributes off its bytes (`searchFrom?_eq`), so it finds the first attribute
of a kind among `Attribute.lenient`, and tells its offset (`findAttribute_eq_zero`,
`toNat_findAttribute_of_first`). The lemmas `step_…` say what single instructions do.
-/

namespace SampleTap.Bpf

/-! ## The attribute search -/

/-- A checked read of a word in the packet is a read of the bytes from its offset. -/
theorem word16At?_ofBytes (packet : Bytes) (offset : Nat) :
    word16At? (.ofBytes packet) offset = Bytes.word16? (packet.drop offset) := by
  have hlow : (Packet.ofBytes packet).byte? offset = (packet.drop offset)[0]? := by
    rw [Packet.byte?_ofBytes, List.getElem?_drop, Nat.add_zero]
  have hhigh : (Packet.ofBytes packet).byte? (offset + 1) = (packet.drop offset)[1]? := by
    rw [Packet.byte?_ofBytes, List.getElem?_drop]
  rw [word16At?, hlow, hhigh]
  cases packet.drop offset with
  | nil => rfl
  | cons b rest => cases rest <;> rfl

/-- The header at an offset is the one that the packet's bytes from there start with. -/
theorem headerAt?_ofBytes (packet : Bytes) (offset : Nat) :
    headerAt? (.ofBytes packet) offset = Attribute.Header.decode? (packet.drop offset) := by
  rw [headerAt?, Attribute.Header.decode?_aligned, word16At?_ofBytes, word16At?_ofBytes,
    List.drop_drop]

/-- The search takes the first attribute off the stream, and goes on behind it when it is of another
kind. -/
theorem searchFrom?_eq (packet : Bytes) (kind : UInt32) (offset : Nat) :
    searchFrom? (.ofBytes packet) kind offset =
      match Attribute.step (packet.drop offset) with
      | .found a _ =>
        if a.kind.toUInt32 = kind then some offset
        else searchFrom? (.ofBytes packet) kind (offset + Bytes.align a.extent)
      | _ => some 0 := by
  have hsize := Packet.size_ofBytes packet
  have hlength : (packet.drop offset).length = (Packet.ofBytes packet).size - offset := by
    rw [hsize, List.length_drop]
  rw [searchFrom?, headerAt?_ofBytes]
  unfold Attribute.step
  cases hdecode : Attribute.Header.decode? (packet.drop offset) with
  | none =>
    have hshort := Attribute.Header.decode?_eq_none_iff.mp hdecode
    rw [dif_neg (by omega)]
    split_ifs <;> rfl
  | some h =>
    have hlong : ¬ (packet.drop offset).length < Attribute.headerLength := by
      rw [← Attribute.Header.decode?_eq_none_iff, hdecode]
      exact Option.some_ne_none h
    have hpos : 0 < Attribute.headerLength := by decide
    have hne : ¬ (packet.drop offset).isEmpty = true := by
      intro hempty
      rw [List.isEmpty_iff_length_eq_zero] at hempty
      omega
    rw [dif_pos (by omega), if_neg hne]
    dsimp only
    by_cases hbad : h.length.toNat < Attribute.headerLength ∨
        (Packet.ofBytes packet).size - offset < h.length.toNat
    · have hbad' : (decide (h.length.toNat < Attribute.headerLength) ||
          !Bytes.holds h.length.toNat (packet.drop offset)) = true := by
        rwa [Bool.or_eq_true, decide_eq_true_eq, Bool.not_eq_true', Bytes.holds_eq_false_iff,
          hlength]
      rw [dif_pos hbad, if_pos hbad']
    · have hgood : ¬ (decide (h.length.toNat < Attribute.headerLength) ||
          !Bytes.holds h.length.toNat (packet.drop offset)) = true := by
        rwa [Bool.or_eq_true, decide_eq_true_eq, Bool.not_eq_true', Bytes.holds_eq_false_iff,
          hlength]
      -- The search skips by the header's length, which is the extent of the attribute.
      rw [dif_neg hbad, if_neg hgood]
      dsimp only
      rw [Attribute.extent_cut (by omega) (by omega)]

/-- Whether an attribute is the one that a search is for. -/
def sought (kind : UInt32) (a : Attribute) : Bool := a.kind.toUInt32 == kind

/-- The search comes back with zero when no attribute from its offset on is of the kind. -/
theorem searchFrom?_eq_zero {packet : Bytes} {kind : UInt32} {offset : Nat}
    (h : (Attribute.lenient (packet.drop offset)).find? (sought kind) = none) :
    searchFrom? (.ofBytes packet) kind offset = some 0 := by
  generalize hrest : packet.drop offset = rest at h
  unfold Attribute.lenient at h
  -- The search and `split` take the same steps, so the induction is that of `split`.
  fun_induction Attribute.split rest generalizing offset with
  | case1 rest hstep => rw [searchFrom?_eq, hrest, hstep]
  | case2 rest cause hstep => rw [searchFrom?_eq, hrest, hstep]
  | case3 rest a rest' hstep hshorter attributes fault? hsplit ih =>
    have hbehind : packet.drop (offset + Bytes.align a.extent) = rest' := by
      rw [(Attribute.step_found hstep).2.2, ← hrest, List.drop_drop]
    rw [hsplit] at ih
    rw [List.find?_cons] at h
    rw [searchFrom?_eq, hrest, hstep]
    dsimp only
    by_cases hkind : a.kind.toUInt32 = kind
    · simp [sought, hkind] at h
    · have hother : sought kind a = false := by simp [sought, hkind]
      rw [if_neg hkind]
      exact ih hbehind (by rwa [hother] at h)

/-- The search tells the offset of the first attribute of a kind. -/
theorem searchFrom?_of_first {packet : Bytes} {kind : UInt32} {offset : Nat}
    {before after : List Attribute} {a : Attribute}
    (h : Attribute.lenient (packet.drop offset) = before ++ a :: after)
    (hbefore : ∀ b ∈ before, b.kind.toUInt32 ≠ kind) (hkind : a.kind.toUInt32 = kind) :
    searchFrom? (.ofBytes packet) kind offset = some (offset + Attribute.span before) := by
  induction before generalizing offset with
  | nil =>
    obtain ⟨behind, hfound⟩ := Attribute.step_span h
    rw [Attribute.span, List.map_nil, List.sum_nil, List.drop_zero] at hfound
    rw [searchFrom?_eq, hfound]
    exact if_pos hkind
  | cons b before ih =>
    obtain ⟨hother, hlater⟩ := List.forall_mem_cons.mp hbefore
    rw [Attribute.lenient_eq] at h
    cases hstep : Attribute.step (packet.drop offset) with
    | found b' rest' =>
      simp only [hstep, List.cons_append, List.cons.injEq] at h
      obtain ⟨rfl, hrest⟩ := h
      rw [(Attribute.step_found hstep).2.2, List.drop_drop] at hrest
      rw [searchFrom?_eq, hstep]
      dsimp only
      rw [if_neg hother, ih hrest hlater, Attribute.span_cons, Nat.add_assoc]
    | finished => simp [hstep] at h
    | malformed cause => simp [hstep] at h

/-- What the search finds inside the packet is the answer. -/
theorem findAttribute_of_searchFrom? {packet : Bytes} {start kind : UInt32} {found : Nat}
    (h : searchFrom? (.ofBytes packet) kind start.toNat = some found) :
    findAttribute (.ofBytes packet) start kind = UInt32.ofNat found := by
  simp only [findAttribute, h, Option.get_some]

/-- The answer is zero when no attribute from the start on is of the kind. -/
theorem findAttribute_eq_zero {packet : Bytes} {start kind : UInt32}
    (h : (Attribute.lenient (packet.drop start.toNat)).find? (sought kind) = none) :
    findAttribute (.ofBytes packet) start kind = 0 := by
  rw [findAttribute_of_searchFrom? (searchFrom?_eq_zero h)]
  rfl

/-- The search tells the offset of the first attribute of a kind, when the offset fits a
register. -/
theorem toNat_findAttribute_of_first (start : UInt32) {packet : Bytes} {kind : UInt32}
    {before after : List Attribute} {a : Attribute}
    (hsize : start.toNat + Attribute.span before < UInt32.size)
    (h : Attribute.lenient (packet.drop start.toNat) = before ++ a :: after)
    (hbefore : ∀ b ∈ before, b.kind.toUInt32 ≠ kind) (hkind : a.kind.toUInt32 = kind) :
    (findAttribute (.ofBytes packet) start kind).toNat = start.toNat + Attribute.span before := by
  rw [findAttribute_of_searchFrom? (searchFrom?_of_first h hbefore hkind),
    UInt32.toNat_ofNat_of_lt' hsize]

/-! ## Loads -/

/-- A load of four bytes from inside the packet. -/
theorem load?_word {packet : Bytes} {offset : UInt32} (registers : Registers) {code : UInt16}
    (hcode : loadWidth? code = some 4) (hbase : offset < ancillaryBase)
    (hinside : offset.toNat + 4 ≤ packet.length) :
    load? (.ofBytes packet) registers code offset =
      some (UInt32.ofNat (Bytes.bigNat ((packet.drop offset.toNat).take 4))) := by
  rw [load?, if_neg (UInt32.not_le.mpr hbase), hcode]
  simp only [Option.bind_eq_bind, Option.bind_some]
  rw [Packet.read?_ofBytes, if_pos hinside]
  rfl

/-- A load of four bytes that are not all inside the packet finds nothing, unless it is the
search. -/
theorem load?_word_of_outside {packet : Bytes} {offset : UInt32} (registers : Registers)
    {code : UInt16} (hcode : loadWidth? code = some 4)
    (hsearch : offset ≠ ancillaryBase + attributeSearch)
    (houtside : packet.length < offset.toNat + 4) :
    load? (.ofBytes packet) registers code offset = none := by
  by_cases hbase : ancillaryBase ≤ offset
  · have hother : offset - ancillaryBase ≠ attributeSearch := fun hsame =>
      hsearch (by rw [← hsame, UInt32.add_comm, UInt32.sub_add_cancel])
    rw [load?, if_pos hbase, if_neg hother]
  · rw [load?, if_neg hbase, hcode]
    simp only [Option.bind_eq_bind, Option.bind_some]
    rw [Packet.read?_ofBytes, if_neg (Nat.not_le_of_lt houtside)]
    rfl

/-! ## Single instructions -/

/-- An instruction that goes on passes its registers to the one it jumps to. -/
theorem runFrom_next {packet : Packet} {r r' : Registers} {i : Instruction} {rest : Program}
    {skip : Nat} (h : i.step packet r = .next r' skip) :
    runFrom packet r (i :: rest) = runFrom packet r' (rest.drop skip) := by
  rw [runFrom, h]

/-- A return ends the run, whatever instructions are behind it. -/
theorem runFrom_returned {packet : Packet} {r : Registers} {i : Instruction} {rest : Program}
    {accepted : UInt32} (h : i.step packet r = .returned accepted) :
    runFrom packet r (i :: rest) = .ok accepted := by
  rw [runFrom, h]

/-- What a load into the accumulator comes to; one that finds nothing drops the packet. -/
def Step.ofLoad (r : Registers) : Option UInt32 → Step
  | some value => .next { r with accumulator := value } 0
  | none => .returned 0

section

variable (packet : Packet) (r : Registers) (jumpTrue jumpFalse : UInt8) (operand : UInt32)

theorem step_loadImmediate :
    Instruction.step packet r ⟨0x00, jumpTrue, jumpFalse, operand⟩ =
      .next { r with accumulator := operand } 0 := by
  have hclass : (0x00 : UInt16) &&& 0x07 = 0x00 := by decide
  have hmode : (0x00 : UInt16) &&& 0xe0 = 0x00 := by decide
  simp only [Instruction.step, hclass, Instruction.stepLoad, hmode]

theorem step_loadIndex :
    Instruction.step packet r ⟨0x01, jumpTrue, jumpFalse, operand⟩ =
      .next { r with index := operand } 0 := by
  have hclass : (0x01 : UInt16) &&& 0x07 = 0x01 := by decide
  have hmode : (0x01 : UInt16) &&& 0xe0 = 0x00 := by decide
  simp only [Instruction.step, hclass, hmode, if_true]

theorem step_loadAbsolute :
    Instruction.step packet r ⟨0x20, jumpTrue, jumpFalse, operand⟩ =
      .ofLoad r (load? packet r 0x20 operand) := by
  have hclass : (0x20 : UInt16) &&& 0x07 = 0x00 := by decide
  have hmode : (0x20 : UInt16) &&& 0xe0 = 0x20 := by decide
  simp only [Instruction.step, hclass, Instruction.stepLoad, hmode]
  rfl

theorem step_loadIndirect :
    Instruction.step packet r ⟨0x40, jumpTrue, jumpFalse, operand⟩ =
      .ofLoad r (load? packet r 0x40 (r.index + operand)) := by
  have hclass : (0x40 : UInt16) &&& 0x07 = 0x00 := by decide
  have hmode : (0x40 : UInt16) &&& 0xe0 = 0x40 := by decide
  simp only [Instruction.step, hclass, Instruction.stepLoad, hmode]
  rfl

theorem step_jumpEqual :
    Instruction.step packet r ⟨0x15, jumpTrue, jumpFalse, operand⟩ =
      .next r (if r.accumulator = operand then jumpTrue.toNat else jumpFalse.toNat) := by
  have hclass : (0x15 : UInt16) &&& 0x07 = 0x05 := by decide
  have hother : (0x15 : UInt16) &&& 0x08 = 0x00 := by decide
  have htest : (0x15 : UInt16) &&& 0xf0 = 0x10 := by decide
  simp only [Instruction.step, hclass, Instruction.stepJump, hother, if_true, htest, beq_iff_eq]

theorem step_accumulatorToIndex :
    Instruction.step packet r ⟨0x07, jumpTrue, jumpFalse, operand⟩ =
      .next { r with index := r.accumulator } 0 := by
  have hclass : (0x07 : UInt16) &&& 0x07 = 0x07 := by decide
  have htransfer : (0x07 : UInt16) &&& 0xf8 = 0x00 := by decide
  simp only [Instruction.step, hclass, htransfer]

theorem step_return :
    Instruction.step packet r ⟨0x06, jumpTrue, jumpFalse, operand⟩ = .returned operand := by
  have hclass : (0x06 : UInt16) &&& 0x07 = 0x06 := by decide
  have hvalue : (0x06 : UInt16) &&& 0x18 = 0x00 := by decide
  simp only [Instruction.step, hclass, hvalue]

end

end SampleTap.Bpf
