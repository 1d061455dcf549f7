import SampleTap.Attribute

/-!
# Classic socket filters

A filter is a list of instructions over an accumulator, an index register and a received datagram.
It returns the number of bytes to accept, zero for none. The supported instructions are loads,
register transfers, jumps and returns; any other is an error, and so is running past the last
instruction. A load that misses the datagram ends the program with zero.

A program looks at a datagram by offsets only (`Bpf.Packet`), so it need not be stored in one piece.
Jumps go forward only, so a program runs as recursion on the instructions that remain
(`Bpf.runFrom`). One ancillary load is supported: the search for an attribute by number
(`Bpf.findAttribute`).
-/

namespace SampleTap.Bpf

/-! ## Programs -/

/-- An instruction. -/
structure Instruction where
  code : UInt16
  /-- Instructions to skip when a condition holds. -/
  jumpTrue : UInt8 := 0
  /-- Instructions to skip when a condition fails. -/
  jumpFalse : UInt8 := 0
  /-- The operand. -/
  operand : UInt32
deriving DecidableEq, Repr

/-- A filter. -/
abbrev Program := List Instruction

/-- The most instructions that a socket accepts. -/
def maxLength : Nat := 4096

/-- The two registers. -/
structure Registers where
  accumulator : UInt32 := 0
  index : UInt32 := 0
deriving DecidableEq, Repr

/-! ## Packets -/

/-- A datagram, as the byte at each offset. -/
structure Packet where
  size : Nat
  byte : Fin size → UInt8

namespace Packet

/-- The packet that a byte string is. -/
def ofBytes (data : Bytes) : Packet :=
  let stored := data.toArray
  ⟨stored.size, fun offset => stored[offset]⟩

/-- The byte at an offset; nothing when it is not in the packet. -/
def byte? (packet : Packet) (offset : Nat) : Option UInt8 :=
  if h : offset < packet.size then some (packet.byte ⟨offset, h⟩) else none

/-- The bytes from an offset on; nothing when they are not all in the packet. -/
def read? (packet : Packet) (offset width : Nat) : Option Bytes :=
  if h : offset + width ≤ packet.size then
    some (List.ofFn fun i : Fin width => packet.byte ⟨offset + i, by omega⟩)
  else none

@[simp] theorem size_ofBytes (data : Bytes) : (ofBytes data).size = data.length := rfl

theorem byte?_ofBytes (data : Bytes) (offset : Nat) :
    (ofBytes data).byte? offset = data[offset]? := by
  by_cases h : offset < (ofBytes data).size
  · rw [byte?, dif_pos h, List.getElem?_eq_getElem (show offset < data.length from h)]
    rfl
  · rw [byte?, dif_neg h, List.getElem?_eq_none (Nat.le_of_not_lt h)]

theorem read?_ofBytes (data : Bytes) (offset width : Nat) :
    (ofBytes data).read? offset width =
      if offset + width ≤ data.length then some ((data.drop offset).take width) else none := by
  by_cases h : offset + width ≤ (ofBytes data).size
  · rw [read?, dif_pos h, if_pos (show offset + width ≤ data.length from h)]
    rw [size_ofBytes] at h
    refine congrArg some (List.ext_getElem ?_ fun i _ _ => ?_)
    · rw [List.length_ofFn, List.length_take, List.length_drop]
      omega
    · rw [List.getElem_ofFn, List.getElem_take, List.getElem_drop]
      rfl
  · rw [read?, dif_neg h, if_neg (show ¬ offset + width ≤ data.length from h)]

end Packet

/-! ## Loads -/

/-- Offsets from here on address ancillary data. -/
def ancillaryBase : UInt32 := 0xfffff000

/-- The ancillary offset of the attribute search. -/
def attributeSearch : UInt32 := 12

/-- The integer in the two bytes at an offset; nothing when they are not both in the packet. -/
def word16At? (packet : Packet) (offset : Nat) : Option UInt16 := do
  let low ← packet.byte? offset
  let high ← packet.byte? (offset + 1)
  return UInt16.ofNat (Bytes.littleNat [low, high])

/-- The header of the attribute at an offset; nothing when it is not all in the packet. -/
def headerAt? (packet : Packet) (offset : Nat) : Option Attribute.Header := do
  let length ← word16At? packet offset
  let type ← word16At? packet (offset + 2)
  return ⟨length, type⟩

theorem isSome_headerAt? {packet : Packet} {offset : Nat}
    (h : offset + Attribute.headerLength ≤ packet.size) : (headerAt? packet offset).isSome := by
  have hheader : Attribute.headerLength = 4 := rfl
  have hbytes : offset < packet.size ∧ offset + 1 < packet.size ∧ offset + 2 < packet.size ∧
      offset + 2 + 1 < packet.size := by omega
  simp [headerAt?, word16At?, Packet.byte?, hbytes]

/-- The offset of the first attribute numbered `kind` in the stream from `offset` to the end of the
packet, or zero when the stream ends or is malformed before one is found. There is no result when
the search looks at bytes outside the packet, which `isSome_searchFrom?` excludes. -/
def searchFrom? (packet : Packet) (kind : UInt32) (offset : Nat) : Option Nat :=
  if _ : offset + Attribute.headerLength ≤ packet.size then
    match headerAt? packet offset with
    | none => none
    | some h =>
      if _ : h.length.toNat < Attribute.headerLength ∨
          packet.size - offset < h.length.toNat then some 0
      else if h.kind.toUInt32 = kind then some offset
      else searchFrom? packet kind (offset + Bytes.align h.length.toNat)
  else some 0
termination_by packet.size - offset
decreasing_by
  have := Bytes.le_align h.length.toNat
  have : Attribute.headerLength = 4 := rfl
  omega

theorem isSome_searchFrom? (packet : Packet) (kind : UInt32) (offset : Nat) :
    (searchFrom? packet kind offset).isSome := by
  fun_induction searchFrom? packet kind offset with
  | case1 offset hheader hnone =>
    have hsome := isSome_headerAt? hheader
    rw [hnone] at hsome
    exact hsome
  | case2 => rfl
  | case3 => rfl
  | case4 _ _ _ _ _ _ ih => exact ih
  | case5 => rfl

/-- The offset of the first attribute numbered `kind` in the stream from `start` to the end of the
packet, or zero when there is none. -/
def findAttribute (packet : Packet) (start kind : UInt32) : UInt32 :=
  UInt32.ofNat ((searchFrom? packet kind start.toNat).get (isSome_searchFrom? ..))

/-- The number of bytes that a load with a given opcode reads. -/
def loadWidth? (code : UInt16) : Option Nat :=
  match code &&& 0x18 with
  | 0x00 => some 4
  | 0x08 => some 2
  | 0x10 => some 1
  | _ => none

/-- The value that a load finds at `offset`: packet bytes with the highest first, or ancillary
data. -/
def load? (packet : Packet) (registers : Registers) (code : UInt16) (offset : UInt32) :
    Option UInt32 :=
  if ancillaryBase ≤ offset then
    if offset - ancillaryBase = attributeSearch then
      some (findAttribute packet registers.accumulator registers.index)
    else none
  else do
    let width ← loadWidth? code
    let data ← packet.read? offset.toNat width
    return UInt32.ofNat (Bytes.bigNat data)

/-! ## Instructions -/

/-- What an instruction does to the run. -/
inductive Step
  /-- The program ends and accepts this many bytes. -/
  | returned (accepted : UInt32)
  /-- The program cannot go on. -/
  | failed (cause : Error)
  /-- The program goes on with these registers, behind this many further instructions. -/
  | next (registers : Registers) (skip : Nat)

namespace Instruction

/-- The error of an instruction outside the supported set. -/
def unsupported (i : Instruction) : Error := .invalidMessage (.opcodeUnsupported i.code)

/-- A load into the accumulator; a load that finds nothing drops the packet. -/
def stepLoad (packet : Packet) (r : Registers) (i : Instruction) : Step :=
  let enter : Option UInt32 → Step
    | some value => .next { r with accumulator := value } 0
    | none => .returned 0
  match i.code &&& 0xe0 with
  | 0x00 => enter (some i.operand)
  | 0x20 => enter (load? packet r i.code i.operand)
  | 0x40 => enter (load? packet r i.code (r.index + i.operand))
  | _ => .failed i.unsupported

/-- A jump, whose condition compares the accumulator with the operand or the index register. -/
def stepJump (r : Registers) (i : Instruction) : Step :=
  let other := if i.code &&& 0x08 = 0 then i.operand else r.index
  let branch (taken : Bool) : Step :=
    .next r (if taken then i.jumpTrue.toNat else i.jumpFalse.toNat)
  match i.code &&& 0xf0 with
  | 0x00 => .next r i.operand.toNat
  | 0x10 => branch (r.accumulator == other)
  | 0x20 => branch (r.accumulator > other)
  | 0x30 => branch (r.accumulator ≥ other)
  | 0x40 => branch (r.accumulator &&& other != 0)
  | _ => .failed i.unsupported

/-- One instruction. -/
def step (packet : Packet) (r : Registers) (i : Instruction) : Step :=
  match i.code &&& 0x07 with
  | 0x00 => i.stepLoad packet r
  | 0x01 =>
    if i.code &&& 0xe0 = 0 then .next { r with index := i.operand } 0 else .failed i.unsupported
  | 0x05 => i.stepJump r
  | 0x06 =>
    match i.code &&& 0x18 with
    | 0x00 => .returned i.operand
    | 0x10 => .returned r.accumulator
    | _ => .failed i.unsupported
  | 0x07 =>
    match i.code &&& 0xf8 with
    | 0x00 => .next { r with index := r.accumulator } 0
    | 0x80 => .next { r with accumulator := r.index } 0
    | _ => .failed i.unsupported
  | _ => .failed i.unsupported

end Instruction

/-! ## Runs -/

/-- Runs the remaining instructions. -/
def runFrom (packet : Packet) (r : Registers) : Program → Except Error UInt32
  | [] => .error (.invalidMessage .programOverrun)
  | i :: rest =>
    match i.step packet r with
    | .returned accepted => .ok accepted
    | .failed cause => .error cause
    | .next r skip => runFrom packet r (rest.drop skip)
termination_by program => program.length
decreasing_by simp only [List.length_drop, List.length_cons]; omega

/-- The number of bytes of a datagram that a filter accepts. -/
def run (program : Program) (data : Bytes) : Except Error UInt32 :=
  runFrom (.ofBytes data) {} program

end SampleTap.Bpf
