import Mathlib.Algebra.Ring.Nat
import SampleTap.Event
import SampleTap.GroupFilter
import SampleTap.Proofs.AttrTable.Language
import SampleTap.Proofs.Bpf
import SampleTap.Proofs.Message.Builder

/-!
# What a group filter accepts

A filter program finds the first group attribute behind a message's headers and compares its value
in the other byte order. Of any bytes it takes or drops all, and never fails (`run_program_iff`).

On a message whose attributes make a table and do not repeat the group, the value is the table's
group: the program and the table agree (`run_program_of_parse`). A value that stands at an ancillary
offset is out of the program's reach (`GroupsInReach`), and the message is dropped
(`FarGroup.run_program_encode`).
-/

namespace SampleTap

/-- The smallest notification of a sample that tells its group, from a family numbered 29. -/
def notification (group : UInt32) : Bytes :=
  let start : MessageBuilder := { type := 29, flags := 0 }
  let command : CommandHeader := { command := Command.sample.code, version := 1 }
  ((start.appendCommand command).attrU32 3 group).finish

namespace GroupFilter

/-! ## The program -/

/-- Where the search for the group attribute ends. -/
def groupOffset (packet : Bytes) : UInt32 := Bpf.findAttribute (.ofBytes packet) 20 3

/-- What a filter program returns. -/
theorem run_program (f : GroupFilter) (packet : Bytes) :
    Bpf.run f.program packet =
      if groupOffset packet = 0 then .ok 0xffffffff
      else
        match Bpf.load? (.ofBytes packet) ⟨groupOffset packet, groupOffset packet⟩ 0x40
            (groupOffset packet + 4) with
        | some value => .ok (if value = asLoaded f.group then 0xffffffff else 0)
        | none => .ok 0 := by
  have hsearch : Bpf.load? (.ofBytes packet) ⟨20, 3⟩ 0x20
      (Bpf.ancillaryBase + Bpf.attributeSearch) = some (groupOffset packet) := rfl
  have hsearched := Bpf.step_loadAbsolute (.ofBytes packet) ⟨20, 3⟩ 0 0
    (Bpf.ancillaryBase + Bpf.attributeSearch)
  rw [hsearch] at hsearched
  -- Up to the first jump the program only searches.
  refine (Bpf.runFrom_next (Bpf.step_loadImmediate ..)).trans ?_
  refine (Bpf.runFrom_next (Bpf.step_loadIndex ..)).trans ?_
  refine (Bpf.runFrom_next hsearched).trans ?_
  refine (Bpf.runFrom_next (Bpf.step_jumpEqual ..)).trans ?_
  by_cases hzero : groupOffset packet = 0
  · rw [if_pos hzero, if_pos hzero]
    exact Bpf.runFrom_returned (Bpf.step_return ..)
  · rw [if_neg hzero, if_neg hzero]
    -- The offset moves to the index register, and the value behind it is loaded and compared.
    refine (Bpf.runFrom_next (Bpf.step_accumulatorToIndex ..)).trans ?_
    have hloaded := Bpf.step_loadIndirect (.ofBytes packet)
      ⟨groupOffset packet, groupOffset packet⟩ 0 0 4
    cases hvalue : Bpf.load? (.ofBytes packet) ⟨groupOffset packet, groupOffset packet⟩ 0x40
        (groupOffset packet + 4) with
    | none =>
      rw [hvalue] at hloaded
      exact Bpf.runFrom_returned hloaded
    | some value =>
      rw [hvalue] at hloaded
      refine (Bpf.runFrom_next hloaded).trans ?_
      refine (Bpf.runFrom_next (Bpf.step_jumpEqual ..)).trans ?_
      dsimp only
      by_cases hgroup : value = asLoaded f.group
      · rw [if_pos hgroup, if_pos hgroup]
        exact Bpf.runFrom_returned (Bpf.step_return ..)
      · rw [if_neg hgroup, if_neg hgroup]
        exact Bpf.runFrom_returned (Bpf.step_return ..)

/-! ## The comparison -/

/-- A packet load of four bytes gives the filter's operand exactly when the bytes are its word. -/
theorem loaded_eq_asLoaded_iff {data : Bytes} {w : UInt32} (hlength : data.length = 4) :
    UInt32.ofNat (Bytes.bigNat data) = asLoaded w ↔ Bytes.word32? data = some w := by
  -- Neither integer is cut to 32 bits, so the comparison is one of byte strings.
  have hdata := Bytes.bigNat_lt data
  have hofWord := Bytes.bigNat_lt (Bytes.ofWord32 w)
  rw [hlength] at hdata
  rw [Bytes.length_ofWord32] at hofWord
  rw [asLoaded, ← UInt32.toNat_inj, UInt32.toNat_ofNat_of_lt' hdata,
    UInt32.toNat_ofNat_of_lt' hofWord, Bytes.bigNat_inj (by rw [hlength, Bytes.length_ofWord32]),
    Bytes.eq_ofWord32_iff hlength]

/-! ## The first group attribute -/

theorem toUInt32_eq_three_iff {kind : UInt16} : kind.toUInt32 = 3 ↔ kind = 3 := by
  rw [← UInt32.toNat_inj, UInt16.toNat_toUInt32, ← UInt16.toNat_inj]
  rfl

theorem isOf_sampleGroup_iff {a : Attribute} : a.isOf .sampleGroup ↔ a.kind = 3 := by
  rw [Attribute.isOf, beq_iff_eq, ← UInt16.toNat_inj]
  rfl

/-- The kind that the program looks for is that of a sample's group. -/
theorem sought_eq_isOf : Bpf.sought 3 = Attribute.isOf .sampleGroup := by
  funext a
  rw [Bool.eq_iff_iff, Bpf.sought, beq_iff_eq, toUInt32_eq_three_iff, isOf_sampleGroup_iff]

/-- Without a group attribute behind its headers a packet is accepted. -/
theorem run_program_of_find?_eq_none (f : GroupFilter) {packet : Bytes}
    (hfind : (Attribute.lenient (packet.drop 20)).find? (Attribute.isOf .sampleGroup) = none) :
    Bpf.run f.program packet = .ok 0xffffffff := by
  rw [← sought_eq_isOf] at hfind
  rw [run_program, groupOffset, Bpf.findAttribute_eq_zero hfind, if_pos rfl]

section

variable {packet : Bytes} {before after : List Attribute} {a : Attribute}

/-- The search ends at the first group attribute when its value has an offset that fits a
register. -/
theorem toNat_groupOffset (hwalk : Attribute.lenient (packet.drop 20) = before ++ a :: after)
    (hbefore : ∀ b ∈ before, b.kind ≠ 3) (hkind : a.kind = 3)
    (hfits : 20 + Attribute.span before + Attribute.headerLength < UInt32.size) :
    groupOffset packet ≠ 0 ∧
      (groupOffset packet + 4).toNat = 20 + Attribute.span before + Attribute.headerLength := by
  have hheader : Attribute.headerLength = 4 := rfl
  have hother : ∀ b ∈ before, b.kind.toUInt32 ≠ 3 := fun b hb =>
    mt toUInt32_eq_three_iff.mp (hbefore b hb)
  have hoffset : (groupOffset packet).toNat = 20 + Attribute.span before :=
    Bpf.toNat_findAttribute_of_first 20 (show 20 + Attribute.span before < UInt32.size by omega)
      hwalk hother (toUInt32_eq_three_iff.mpr hkind)
  constructor
  · intro hzero
    rw [hzero, show (0 : UInt32).toNat = 0 from rfl] at hoffset
    omega
  · rw [UInt32.toNat_add, hoffset]
    exact Nat.mod_eq_of_lt hfits

/-- By the four bytes behind the header of its first group attribute a packet is accepted or
dropped, also when they are not all of that attribute. Their offset must be below the ancillary
ones. -/
theorem run_program_of_first (f : GroupFilter)
    (hwalk : Attribute.lenient (packet.drop 20) = before ++ a :: after)
    (hbefore : ∀ b ∈ before, b.kind ≠ 3) (hkind : a.kind = 3)
    (hreach : 20 + Attribute.span before + Attribute.headerLength < Bpf.ancillaryBase.toNat) :
    let offset := 20 + Attribute.span before
    Bpf.run f.program packet =
      .ok (if offset + 8 ≤ packet.length ∧
          (packet.drop (offset + 4)).take 4 = Bytes.ofWord32 f.group then 0xffffffff else 0) := by
  intro offset
  obtain ⟨hnonzero, hbehind⟩ :=
    toNat_groupOffset hwalk hbefore hkind (Nat.lt_trans hreach (by decide))
  change (groupOffset packet + 4).toNat = offset + 4 at hbehind
  change offset + 4 < Bpf.ancillaryBase.toNat at hreach
  rw [run_program, if_neg hnonzero]
  by_cases hvalue : offset + 8 ≤ packet.length
  · have hbelow : groupOffset packet + 4 < Bpf.ancillaryBase := by
      rwa [UInt32.lt_iff_toNat_lt, hbehind]
    have hfour : ((packet.drop (offset + 4)).take 4).length = 4 := by
      rw [List.length_take, List.length_drop]
      omega
    rw [Bpf.load?_word _ rfl hbelow (by omega), hbehind]
    simp only [loaded_eq_asLoaded_iff hfour, ← Bytes.eq_ofWord32_iff hfour, hvalue, true_and]
  · have hbase : Bpf.ancillaryBase.toNat = 0xfffff000 := rfl
    have hsearch : groupOffset packet + 4 ≠ Bpf.ancillaryBase + Bpf.attributeSearch := by
      intro hsame
      have hnat := congrArg UInt32.toNat hsame
      rw [hbehind, show (Bpf.ancillaryBase + Bpf.attributeSearch).toNat = 0xfffff00c from rfl]
        at hnat
      omega
    rw [Bpf.load?_word_of_outside _ rfl hsearch (by omega)]
    simp only [hvalue, false_and, if_false]

/-- A value at an ancillary offset is not loaded from the packet. Unless the offset is that of the
search, the packet is dropped, whatever the group. -/
theorem run_program_of_ancillary (f : GroupFilter)
    (hwalk : Attribute.lenient (packet.drop 20) = before ++ a :: after)
    (hbefore : ∀ b ∈ before, b.kind ≠ 3) (hkind : a.kind = 3)
    (hfits : 20 + Attribute.span before + Attribute.headerLength < UInt32.size)
    (hbase : Bpf.ancillaryBase.toNat ≤ 20 + Attribute.span before + Attribute.headerLength)
    (hsearch : 20 + Attribute.span before + Attribute.headerLength ≠
      (Bpf.ancillaryBase + Bpf.attributeSearch).toNat) :
    Bpf.run f.program packet = .ok 0 := by
  obtain ⟨hnonzero, hbehind⟩ := toNat_groupOffset hwalk hbefore hkind hfits
  rw [← hbehind] at hbase hsearch
  have hother : groupOffset packet + 4 - Bpf.ancillaryBase ≠ Bpf.attributeSearch := fun hsame =>
    hsearch (by rw [← hsame, UInt32.add_comm Bpf.ancillaryBase, UInt32.sub_add_cancel])
  have hnone : Bpf.load? (.ofBytes packet) ⟨groupOffset packet, groupOffset packet⟩ 0x40
      (groupOffset packet + 4) = none := by
    rw [Bpf.load?, if_pos (UInt32.le_iff_toNat_le.mpr hbase), if_neg hother]
  rw [run_program, if_neg hnonzero, hnone]

/-- By its first group attribute a packet is accepted or dropped, when it is long enough for a
group. -/
theorem run_program_of_value (f : GroupFilter) (hlong : 4 ≤ a.payload.length)
    (hwalk : Attribute.lenient (packet.drop 20) = before ++ a :: after)
    (hbefore : ∀ b ∈ before, b.kind ≠ 3) (hkind : a.kind = 3)
    (hreach : 20 + Attribute.span before + Attribute.headerLength < Bpf.ancillaryBase.toNat) :
    Bpf.run f.program packet =
      .ok (if Bytes.word32? a.payload = some f.group then 0xffffffff else 0) := by
  have hinside := Attribute.span_add_extent_le hwalk
  rw [Attribute.extent, Attribute.headerLength] at hinside
  obtain ⟨behind, hfound⟩ := Attribute.step_span hwalk
  obtain ⟨-, hpayload, -⟩ := Attribute.step_found hfound
  -- The loaded bytes are the first four of the attribute's payload.
  have hvalue : (packet.drop (20 + Attribute.span before + 4)).take 4 = a.payload.take 4 := by
    rw [hpayload, List.take_take, Nat.min_eq_left hlong, List.drop_drop, List.drop_drop,
      ← Nat.add_assoc]
    rfl
  have hfour : (a.payload.take 4).length = 4 := by
    rw [List.length_take, Nat.min_eq_left hlong]
  have hwhole : 20 + Attribute.span before + 8 ≤ packet.length := by omega
  rw [run_program_of_first f hwalk hbefore hkind hreach, hvalue]
  simp only [Bytes.eq_ofWord32_iff hfour, Bytes.word32?_take, hwhole, true_and]

/-- A search for the group divides a walk at its first group attribute. -/
theorem exists_first_of_find?
    (hfind : (Attribute.lenient (packet.drop 20)).find? (Attribute.isOf .sampleGroup) = some a) :
    ∃ before after, Attribute.lenient (packet.drop 20) = before ++ a :: after ∧
      (∀ b ∈ before, b.kind ≠ 3) ∧ a.kind = 3 := by
  obtain ⟨hof, before, after, hwalk, hother⟩ := List.find?_eq_some_iff_append.mp hfind
  refine ⟨before, after, hwalk, fun b hb => ?_, isOf_sampleGroup_iff.mp hof⟩
  exact mt isOf_sampleGroup_iff.mpr (by simpa using hother b hb)

end

/-! ## Any packet -/

/-- A filter takes the whole of a packet or nothing, whatever the packet's bytes are. It takes a
packet in which the walk over the attributes meets no group, and one in which the four bytes behind
the header of the first group attribute are its own group. Those bytes must be in the packet, but
need not be of that attribute. -/
theorem run_program_iff (g : UInt32) {packet : Bytes} (hsize : packet.length < 2 ^ 32 - 4096) :
    let attributes := Attribute.lenient (packet.drop 20)
    let ran := Bpf.run (GroupFilter.mk g).program packet
    (ran = .ok 0xffffffff ∨ ran = .ok 0) ∧
      (ran = .ok 0xffffffff ↔
        (∀ a ∈ attributes, a.kind ≠ 3) ∨
          ∃ before a after, attributes = before ++ a :: after ∧ (∀ b ∈ before, b.kind ≠ 3) ∧
            a.kind = 3 ∧
            let offset := 20 + Attribute.span before
            offset + 8 ≤ packet.length ∧
              (packet.drop (offset + 4)).take 4 = Bytes.ofWord32 g) := by
  intro attributes ran
  have hbase : Bpf.ancillaryBase.toNat = 2 ^ 32 - 4096 := rfl
  have hran {before after : List Attribute} {a : Attribute}
      (hwalk : attributes = before ++ a :: after) (hbefore : ∀ b ∈ before, b.kind ≠ 3)
      (hkind : a.kind = 3) :
      ran = .ok (if 20 + Attribute.span before + 8 ≤ packet.length ∧
        (packet.drop (20 + Attribute.span before + 4)).take 4 = Bytes.ofWord32 g then 0xffffffff
          else 0) := by
    have hinside := Attribute.span_add_extent_le hwalk
    rw [Attribute.extent] at hinside
    exact run_program_of_first ⟨g⟩ hwalk hbefore hkind (by omega)
  cases hfind : attributes.find? (Attribute.isOf .sampleGroup) with
  | none =>
    have hnone : ∀ a ∈ attributes, a.kind ≠ 3 := fun a ha hkind =>
      List.find?_eq_none.mp hfind a ha (isOf_sampleGroup_iff.mpr hkind)
    have haccepted : ran = .ok 0xffffffff := run_program_of_find?_eq_none _ hfind
    exact ⟨Or.inl haccepted, iff_of_true haccepted (Or.inl hnone)⟩
  | some a =>
    obtain ⟨before, after, hwalk, hbefore, hkind⟩ := exists_first_of_find? hfind
    change attributes = before ++ a :: after at hwalk
    by_cases hvalue : 20 + Attribute.span before + 8 ≤ packet.length ∧
        (packet.drop (20 + Attribute.span before + 4)).take 4 = Bytes.ofWord32 g
    · have haccepted : ran = .ok 0xffffffff := by rw [hran hwalk hbefore hkind, if_pos hvalue]
      exact ⟨Or.inl haccepted,
        iff_of_true haccepted (Or.inr ⟨before, a, after, hwalk, hbefore, hkind, hvalue⟩)⟩
    · have hdropped : ran = .ok 0 := by rw [hran hwalk hbefore hkind, if_neg hvalue]
      have hnot : ran ≠ .ok 0xffffffff := by
        rw [hdropped]
        exact fun h => absurd (Except.ok.inj h) (by decide)
      refine ⟨Or.inr hdropped, iff_of_false hnot ?_⟩
      rintro (hnone | ⟨before', a', after', hwalk', hbefore', hkind', hvalue'⟩)
      · exact absurd hkind (hnone a (by rw [hwalk]; exact List.mem_append_cons_self))
      -- However the walk is divided at its first group attribute, the program runs as before.
      · exact hnot (by rw [hran hwalk' hbefore' hkind', if_pos hvalue'])

/-- A group attribute without a value, and the bytes of a group behind it. -/
theorem run_program_iff_empty_attribute :
    let packet : Bytes := List.replicate 20 0 ++ [4, 0, 3, 0, 7, 0, 0, 0]
    let attributes := Attribute.lenient (packet.drop 20)
    let ran := Bpf.run (GroupFilter.mk 7).program packet
    packet.length < 2 ^ 32 - 4096 ∧ ran = .ok 0xffffffff ∧
      (ran = .ok 0xffffffff ∨ ran = .ok 0) ∧
      (ran = .ok 0xffffffff ↔
        (∀ a ∈ attributes, a.kind ≠ 3) ∨
          ∃ before a after, attributes = before ++ a :: after ∧ (∀ b ∈ before, b.kind ≠ 3) ∧
            a.kind = 3 ∧
            let offset := 20 + Attribute.span before
            offset + 8 ≤ packet.length ∧
              (packet.drop (offset + 4)).take 4 = Bytes.ofWord32 7) := by
  intro packet attributes ran
  have hsize : packet.length < 2 ^ 32 - 4096 := by decide
  have hwalk : attributes = [⟨3, []⟩] := by decide +kernel
  obtain ⟨hends, haccepts⟩ := run_program_iff 7 hsize
  exact ⟨hsize, haccepts.mpr (Or.inr ⟨[], ⟨3, []⟩, [], hwalk, by simp, rfl, by decide⟩),
    hends, haccepts⟩

/-! ## A group that is out of reach -/

open Attribute (Forest)

/-- Tunnel metadata of `size` bytes, `n` times in front of other attributes. -/
def behindTunnels (size : Nat) : Nat → Forest → Forest
  | 0, rest => rest
  | n + 1, rest => .leaf 8 (.bytes (List.replicate size 0)) (behindTunnels size n rest)

section

variable (size n : Nat) (rest : Forest)

theorem attributes_behindTunnels :
    (behindTunnels size n rest).attributes =
      List.replicate n ⟨8, List.replicate size 0⟩ ++ rest.attributes := by
  induction n with
  | zero => rfl
  | succ n ih =>
    rw [behindTunnels, Forest.attributes, ih]
    rfl

/-- Each tunnel takes its header and its content, padded to a multiple of four bytes. -/
theorem length_encode_behindTunnels :
    (behindTunnels size n rest).encode.length =
      n * Bytes.align (Attribute.headerLength + size) + rest.encode.length := by
  induction n with
  | zero => rw [behindTunnels, Nat.zero_mul, Nat.zero_add]
  | succ n ih =>
    have hpayload : (Attribute.Content.bytes (List.replicate size 0)).payload.length = size :=
      List.length_replicate
    rw [behindTunnels, Forest.encode, List.length_append, Bytes.length_pad, List.length_append,
      Attribute.Header.length_encode, hpayload, ih, Nat.succ_mul]
    omega

variable {size rest}

theorem fits_behindTunnels (hsize : Attribute.headerLength + size ≤ Forest.maxLength)
    (h : rest.Fits) : (behindTunnels size n rest).Fits := by
  induction n with
  | zero => exact h
  | succ n ih => exact ⟨(List.length_replicate (n := size) (a := (0 : UInt8))).symm ▸ hsize, ih⟩

end

namespace FarGroup

variable (size n : Nat) (group : UInt32)

/-- A message that tells its group behind tunnel metadata. -/
def outline : Message.Outline where
  type := 29
  flags := 0
  seq := 0
  sender := 0
  command := ⟨0, 1, 0⟩
  attributes := behindTunnels size n (.leaf 3 (.word32 group) .nil)

/-- The attributes in front of the group. -/
def before : List Attribute := List.replicate n ⟨8, List.replicate size 0⟩

/-- The number of bytes in front of the group attribute. -/
def offset : Nat := 20 + n * Bytes.align (Attribute.headerLength + size)

/-- The group is the last attribute: eight bytes from its offset. -/
theorem length_encode : (outline size n group).encode.length = offset size n + 8 := by
  have hword : (Attribute.Content.word32 group).payload.length = 4 := Bytes.length_ofWord32 group
  have hlast : (Forest.leaf 3 (.word32 group) .nil).encode.length = 8 := by
    rw [Forest.encode, Forest.encode, List.append_nil, Bytes.length_pad, List.length_append,
      Attribute.Header.length_encode, hword]
    rfl
  rw [Message.Outline.encode_eq, List.length_append, Message.Outline.length_headers, outline,
    length_encode_behindTunnels, hlast, offset, Nat.add_assoc]

variable {size n}

theorem fits_attributes (hsize : Attribute.headerLength + size ≤ Forest.maxLength) :
    (outline size n group).attributes.Fits :=
  fits_behindTunnels n hsize ⟨show 4 + 4 ≤ 65535 by decide, trivial⟩

/-- The cursor gives the tunnels and then the group. -/
theorem split_encode (hsize : Attribute.headerLength + size ≤ Forest.maxLength) :
    Attribute.split ((outline size n group).encode.drop 20) =
      (before size n ++ [⟨3, Bytes.ofWord32 group⟩], none) := by
  have hpacked := Forest.packed_encode (fits_attributes (n := n) group hsize)
  rw [Message.Outline.encode_eq, List.drop_left' (Message.Outline.length_headers _),
    (Attribute.Framed.whole hpacked).split_eq, outline, attributes_behindTunnels]
  rfl

theorem kind_of_mem_before {a : Attribute} (h : a ∈ before size n) : a.kind = 8 := by
  rw [List.eq_of_mem_replicate h]

theorem not_isOf_of_mem_before {a : Attribute} (h : a ∈ before size n) :
    ¬ a.isOf .sampleGroup := by
  rw [isOf_sampleGroup_iff, kind_of_mem_before h]
  decide

/-- A table takes tunnel metadata of any length, and the group is long enough. -/
theorem accepted_encode (hsize : Attribute.headerLength + size ≤ Forest.maxLength) :
    AttrTable.Accepted ((outline size n group).encode.drop 20)
      (before size n ++ [⟨3, Bytes.ofWord32 group⟩]) := by
  refine ⟨?_, fun a ha => ?_⟩
  · rw [Attribute.StrictCursor.drain_eq_split, split_encode group hsize]
    exact List.append_nil _
  · rcases List.mem_append.mp ha with ha | ha
    · simp [Attribute.Admitted, kind_of_mem_before ha]
    · simp [Attribute.Admitted, List.mem_singleton.mp ha]

/-- The group starts where the tunnels end. -/
theorem span_before : 20 + Attribute.span (before size n) = offset size n := by
  rw [Attribute.span, before, List.map_replicate, List.sum_replicate_nat,
    Attribute.extent, List.length_replicate, offset]

/-- A group whose value stands at an ancillary offset is that of the table, and yet the packet is
dropped. -/
theorem run_program_encode (hsize : Attribute.headerLength + size ≤ Forest.maxLength)
    (hlength : offset size n + 8 < 2 ^ 32)
    (hbase : Bpf.ancillaryBase.toNat ≤ offset size n + Attribute.headerLength)
    (hsearch : offset size n + Attribute.headerLength ≠
      (Bpf.ancillaryBase + Bpf.attributeSearch).toNat) :
    let packet := (outline size n group).encode
    ∃ m t, (Message.Cursor.mk packet).drain = [.ok m] ∧ m.header.length.toNat = packet.length ∧
      AttrTable.parse (packet.drop 20) = .ok t ∧
      (Attribute.lenient (packet.drop 20)).countP (Attribute.isOf .sampleGroup) ≤ 1 ∧
      t.u32? .sampleGroup = some group ∧ Bpf.run (GroupFilter.mk group).program packet = .ok 0 := by
  intro packet
  have hwalk : Attribute.lenient (packet.drop 20) =
      before size n ++ [⟨3, Bytes.ofWord32 group⟩] :=
    congrArg Prod.fst (split_encode (n := n) group hsize)
  have hother : ∀ b ∈ before size n, ¬ b.isOf .sampleGroup := fun _ => not_isOf_of_mem_before
  have honce : (Attribute.lenient (packet.drop 20)).countP (Attribute.isOf .sampleGroup) ≤ 1 := by
    rw [hwalk, List.countP_append, List.countP_eq_zero.mpr hother]
    exact Nat.le_refl 1
  obtain ⟨t, ht⟩ := (accepted_encode (n := n) group hsize).exists_parse
  have hgroup : t.u32? .sampleGroup = some group := by
    have hword := Bytes.word32?_ofWord32_append group []
    rw [List.append_nil] at hword
    rw [AttrTable.u32?, AttrTable.get?_of_parse_once ht _ honce, hwalk, List.find?_append,
      List.find?_eq_none.mpr hother]
    exact hword
  have hfits : (outline size n group).Fits :=
    ⟨fits_attributes group hsize, by rwa [length_encode]⟩
  refine ⟨_, t, hfits.drain_encode, hfits.isSaidBy.length, ht, honce, hgroup, ?_⟩
  rw [← span_before] at hlength hbase hsearch
  have hbefore : ∀ b ∈ before size n, b.kind ≠ 3 := fun b hb =>
    mt isOf_sampleGroup_iff.mpr (hother b hb)
  refine run_program_of_ancillary _ hwalk hbefore rfl ?_ hbase hsearch
  exact Nat.lt_of_le_of_lt (Nat.add_le_add_left (by decide) _) hlength

end FarGroup

/-! ## Filter and table -/

/-- Whether every group that a packet's attributes tell stands below the ancillary offsets, where it
can be loaded. -/
def GroupsInReach (packet : Bytes) : Prop :=
  ∀ ⦃before after : List Attribute⦄ ⦃a : Attribute⦄,
    Attribute.lenient (packet.drop 20) = before ++ a :: after → a.kind = 3 →
      4 ≤ a.payload.length →
      20 + Attribute.span before + Attribute.headerLength < Bpf.ancillaryBase.toNat

/-- A packet that does not reach to the ancillary offsets has its groups below them. -/
theorem groupsInReach_of_length {packet : Bytes} (h : packet.length ≤ Bpf.ancillaryBase.toNat) :
    GroupsInReach packet := by
  intro before after a hwalk _ hlong
  have hinside := Attribute.span_add_extent_le hwalk
  rw [Attribute.extent] at hinside
  omega

/-- The filter of a group decides by the group of the table that the first attributes behind a
packet's headers make, whatever follows them. The group attribute must not be repeated: the filter
finds its first occurrence and the table keeps the last. -/
theorem run_program_of_u32? (g : UInt32) {packet attributes tail : Bytes} {t : AttrTable}
    {group : UInt32} (hreach : GroupsInReach packet)
    (hpacket : packet.drop 20 = attributes ++ tail) (htable : AttrTable.parse attributes = .ok t)
    (honce : (Attribute.lenient attributes).countP (Attribute.isOf .sampleGroup) ≤ 1)
    (hgroup : t.u32? .sampleGroup = some group) :
    Bpf.run (GroupFilter.mk g).program packet = .ok (if group = g then 0xffffffff else 0) := by
  obtain ⟨a, hfind, hword⟩ := AttrTable.find?_of_u32?_eq_some htable honce hgroup
  obtain ⟨more, hmore⟩ := Attribute.lenient_append tail (AttrTable.wellFormed_of_parse htable).1
  have hlong := (Bytes.word32?_eq_some_iff.mp hword).1
  -- What follows the attributes does not come before the first of them.
  have hfind' : (Attribute.lenient (packet.drop 20)).find? (Attribute.isOf .sampleGroup) =
      some a := by
    rw [hpacket, hmore, List.find?_append, hfind, Option.some_or]
  obtain ⟨before, after, hwalk, hbefore, hkind⟩ := exists_first_of_find? hfind'
  rw [run_program_of_value _ hlong hwalk hbefore hkind (hreach hwalk hkind hlong), hword]
  simp only [Option.some.injEq]

/-- The filter of a group and the table of a message agree. A message is accepted when its table
has no group or the group of the filter, and nothing of it otherwise. Its group must be in reach of
the filter. -/
theorem run_program_of_parse (g : UInt32) {packet : Bytes} {t : AttrTable}
    (hreach : GroupsInReach packet)
    (htable : AttrTable.parse (packet.drop 20) = .ok t)
    (honce : (Attribute.lenient (packet.drop 20)).countP (Attribute.isOf .sampleGroup) ≤ 1) :
    Bpf.run (GroupFilter.mk g).program packet =
      .ok (if t.u32? .sampleGroup = none ∨ t.u32? .sampleGroup = some g then 0xffffffff
        else 0) := by
  cases hgroup : t.u32? .sampleGroup with
  | none =>
    -- A group attribute that is there can be read, so there is none to find.
    have hget := AttrTable.get?_eq_none_of_u32? htable hgroup (Nat.le_refl 4)
    rw [AttrTable.get?_of_parse_once htable .sampleGroup honce, Option.map_eq_none_iff] at hget
    rw [run_program_of_find?_eq_none _ hget, if_pos (Or.inl rfl)]
  | some group =>
    rw [run_program_of_u32? g hreach (List.append_nil _).symm htable honce hgroup]
    simp only [reduceCtorEq, Option.some.injEq, false_or]

theorem run_program_of_parse_notification :
    let packet := notification 7
    let t := AttrTable.empty.insert .sampleGroup [7, 0, 0, 0]
    GroupsInReach packet ∧ AttrTable.parse (packet.drop 20) = .ok t ∧
      (Attribute.lenient (packet.drop 20)).countP (Attribute.isOf .sampleGroup) ≤ 1 ∧
      Bpf.run (GroupFilter.mk 8).program packet =
        .ok (if t.u32? .sampleGroup = none ∨ t.u32? .sampleGroup = some 8 then 0xffffffff else 0) :=
  have hsplit : Attribute.split ((notification 7).drop 20) = ([⟨3, [7, 0, 0, 0]⟩], none) := by
    decide +kernel
  have hreach := groupsInReach_of_length (by decide +kernel)
  have htable := by
    rw [AttrTable.parse, hsplit]
    rfl
  have honce := by
    rw [Attribute.lenient, hsplit]
    decide
  ⟨hreach, htable, honce, run_program_of_parse 8 hreach htable honce⟩

/-- A message of group 7 with 65544 attributes in front of the group, which a filter of that group
drops. -/
theorem run_program_of_far_group :
    let packet := (FarGroup.outline 65524 65544 7).encode
    ∃ m t, (Message.Cursor.mk packet).drain = [.ok m] ∧ m.header.length.toNat = packet.length ∧
      20 ≤ packet.length ∧ AttrTable.parse (packet.drop 20) = .ok t ∧
      (Attribute.lenient (packet.drop 20)).countP (Attribute.isOf .sampleGroup) ≤ 1 ∧
      t.u32? .sampleGroup = some 7 ∧ Bpf.run (GroupFilter.mk 7).program packet = .ok 0 ∧
      Bpf.run (GroupFilter.mk 7).program packet ≠
        .ok (if t.u32? .sampleGroup = none ∨ t.u32? .sampleGroup = some 7 then 0xffffffff
          else 0) := by
  intro packet
  obtain ⟨m, t, hdrain, hcounted, htable, honce, hgroup, hrun⟩ :=
    @FarGroup.run_program_encode 65524 65544 7 (by decide) (by decide) (by decide) (by decide)
  have hlength : 20 ≤ packet.length := by
    rw [FarGroup.length_encode]
    decide
  refine ⟨m, t, hdrain, hcounted, hlength, htable, honce, hgroup, hrun, ?_⟩
  rw [hrun, if_pos (Or.inr hgroup)]
  exact fun h => absurd (Except.ok.inj h) (by decide)

end GroupFilter
end SampleTap
