import SampleTap.Event

/-!
# Records

What is kept of an event: each field that exists. `GroupDescriptor` is what a group's description
must say in full.
-/

namespace SampleTap

/-- What is kept of a sample. -/
structure SampleRecord where
  group : Option UInt32 := none
  rate : Option UInt32 := none
  iif : Option UInt16 := none
  oif : Option UInt16 := none
  origSize : Option UInt32 := none
  seq : Option UInt32 := none
  /-- The sampled bytes; empty also when there are none. -/
  data : Bytes := []
  outTc : Option UInt16 := none
  outTcOcc : Option UInt64 := none
  latency : Option UInt64 := none
  timestamp : Option UInt64 := none
  proto : Option UInt16 := none
  userCookie : Option Bytes := none
  /-- Whether the rate is a probability. -/
  isProbability : Bool := false
deriving DecidableEq, Repr

/-- What is kept of a change to a group. -/
structure ConfigRecord where
  /-- The number of the command. -/
  code : UInt8
  group : Option UInt32 := none
  groupSeq : Option UInt32 := none
  groupRefcount : Option UInt32 := none
deriving DecidableEq, Repr

/-- What is kept of an event. -/
inductive EventRecord
  | sample (record : SampleRecord)
  | config (record : ConfigRecord)
deriving DecidableEq, Repr

/-- The record of a sample. -/
def SampleView.record (v : SampleView) : SampleRecord where
  group := v.table.u32? .sampleGroup
  rate := v.table.u32? .sampleRate
  iif := v.table.u16? .iifIndex
  oif := v.table.u16? .oifIndex
  origSize := v.table.u32? .origSize
  seq := v.table.u32? .groupSeq
  data := (v.table.get? .data).getD []
  outTc := v.table.u16? .outTc
  outTcOcc := v.table.u64? .outTcOcc
  latency := v.table.u64? .latency
  timestamp := v.table.u64? .timestamp
  proto := v.table.u16? .proto
  userCookie := v.table.get? .userCookie
  isProbability := v.isProbability

/-- The record of a change to a group. -/
def ConfigView.record (v : ConfigView) : ConfigRecord where
  code := v.code
  group := v.table.u32? .sampleGroup
  groupSeq := v.table.u32? .groupSeq
  groupRefcount := v.table.u32? .groupRefcount

/-- The record of an event. -/
def Event.record : Event → EventRecord
  | sample view => .sample view.record
  | config view => .config view.record

/-! ## Groups -/

/-- A sampling group. -/
structure GroupDescriptor where
  number : UInt32
  /-- Number of sampling actions that use the group. -/
  refcount : UInt32
  /-- Sequence number of the last sample. -/
  seq : UInt32
deriving DecidableEq, Repr

/-- A mandatory integer of a table. -/
def AttrTable.require (t : AttrTable) (id : AttrId) : Except Error UInt32 :=
  match t.u32? id with
  | some value => .ok value
  | none => .error (.missingAttribute id)

/-- The group that a table describes; all three attributes are mandatory. -/
def GroupDescriptor.ofTable (t : AttrTable) : Except Error GroupDescriptor := do
  let number ← t.require .sampleGroup
  let refcount ← t.require .groupRefcount
  let seq ← t.require .groupSeq
  return ⟨number, refcount, seq⟩

end SampleTap
