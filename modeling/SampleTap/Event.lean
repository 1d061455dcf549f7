import SampleTap.AttrTable

/-!
# Events

A message of the sampling family is a sample or tells of a change to a sampling group, by its
command. The two views give the fields of its attribute table by name. A field can be absent:
`has…` tells, and reading an absent field is refused.

Attributes of the fixed-width kinds that a table checks are as good as their presence. The others
exist only when their payload is long enough.
-/

namespace SampleTap

/-! ## Commands -/

/-- A command of the sampling family. -/
inductive Command
  | sample
  | getGroup
  | newGroup
  | deleteGroup
deriving DecidableEq, Repr

namespace Command

/-- The number of a command. -/
def code : Command → UInt8
  | sample => 0
  | getGroup => 1
  | newGroup => 2
  | deleteGroup => 3

/-- The command with a given number. -/
def ofCode? (code : UInt8) : Option Command :=
  [sample, getGroup, newGroup, deleteGroup][code.toNat]?

theorem ofCode?_code (c : Command) : ofCode? c.code = some c := by
  cases c <;> rfl

/-- The name of a command. -/
def name : Command → String
  | sample => "Sample"
  | getGroup => "GetGroup"
  | newGroup => "NewGroup"
  | deleteGroup => "DelGroup"

end Command

/-! ## Fields -/

/-- The reading of a field that is absent. -/
structure AbsentField where
  name : String
deriving DecidableEq, Repr

/-- The wording of the refusal to read an absent field. -/
def AbsentField.message (f : AbsentField) : String :=
  "psample attribute " ++ f.name ++ " is absent; check *_exist() first"

/-- The value of a field, which is refused when there is none. -/
def present {α : Type} (name : String) : Option α → Except AbsentField α
  | some value => .ok value
  | none => .error ⟨name⟩

/-! ## Samples -/

/-- A sampled packet. -/
structure SampleView where
  table : AttrTable
deriving DecidableEq, Repr

namespace SampleView

/-- Whether `group` can be read. -/
def hasGroup (v : SampleView) : Bool := v.table.contains .sampleGroup

/-- The number of the sampling group. -/
def group (v : SampleView) : Except AbsentField UInt32 :=
  present "group" (v.table.u32? .sampleGroup)

/-- Whether `rate` can be read. -/
def hasRate (v : SampleView) : Bool := v.table.contains .sampleRate

/-- The sampling rate: one packet in this many, or a probability. -/
def rate (v : SampleView) : Except AbsentField UInt32 := present "rate" (v.table.u32? .sampleRate)

/-- Whether `iif` can be read. -/
def hasIif (v : SampleView) : Bool := v.table.contains .iifIndex

/-- The index of the ingress interface. -/
def iif (v : SampleView) : Except AbsentField UInt16 := present "iif" (v.table.u16? .iifIndex)

/-- Whether `oif` can be read. -/
def hasOif (v : SampleView) : Bool := v.table.contains .oifIndex

/-- The index of the egress interface. -/
def oif (v : SampleView) : Except AbsentField UInt16 := present "oif" (v.table.u16? .oifIndex)

/-- Whether `origSize` can be read. -/
def hasOrigSize (v : SampleView) : Bool := v.table.contains .origSize

/-- The length of the packet before it was cut. -/
def origSize (v : SampleView) : Except AbsentField UInt32 :=
  present "origsize" (v.table.u32? .origSize)

/-- Whether `seq` can be read. -/
def hasSeq (v : SampleView) : Bool := v.table.contains .groupSeq

/-- The sequence number within the group. -/
def seq (v : SampleView) : Except AbsentField UInt32 := present "seq" (v.table.u32? .groupSeq)

/-- Whether `data` can be read. -/
def hasData (v : SampleView) : Bool := v.table.contains .data

/-- The sampled bytes, from the link-layer header on. -/
def data (v : SampleView) : Except AbsentField Bytes := present "data" (v.table.get? .data)

/-- Whether `outTc` can be read. -/
def hasOutTc (v : SampleView) : Bool := (v.table.u16? .outTc).isSome

/-- The egress traffic class. -/
def outTc (v : SampleView) : Except AbsentField UInt16 := present "out_tc" (v.table.u16? .outTc)

/-- Whether `outTcOcc` can be read. -/
def hasOutTcOcc (v : SampleView) : Bool := (v.table.u64? .outTcOcc).isSome

/-- The egress queue occupancy in bytes. -/
def outTcOcc (v : SampleView) : Except AbsentField UInt64 :=
  present "out_tc_occ" (v.table.u64? .outTcOcc)

/-- Whether `latency` can be read. -/
def hasLatency (v : SampleView) : Bool := (v.table.u64? .latency).isSome

/-- The transit latency in nanoseconds. -/
def latency (v : SampleView) : Except AbsentField UInt64 :=
  present "latency" (v.table.u64? .latency)

/-- Whether `timestamp` can be read. -/
def hasTimestamp (v : SampleView) : Bool := (v.table.u64? .timestamp).isSome

/-- The sampling time in nanoseconds. -/
def timestamp (v : SampleView) : Except AbsentField UInt64 :=
  present "timestamp" (v.table.u64? .timestamp)

/-- Whether `proto` can be read. -/
def hasProto (v : SampleView) : Bool := (v.table.u16? .proto).isSome

/-- The ethertype of the sampled packet. -/
def proto (v : SampleView) : Except AbsentField UInt16 := present "proto" (v.table.u16? .proto)

/-- Whether `userCookie` can be read. -/
def hasUserCookie (v : SampleView) : Bool := v.table.contains .userCookie

/-- The cookie attached by the sampling action. -/
def userCookie (v : SampleView) : Except AbsentField Bytes :=
  present "user_cookie" (v.table.get? .userCookie)

/-- Whether `tunnel` can be read. -/
def hasTunnel (v : SampleView) : Bool := v.table.contains .tunnel

/-- The tunnel metadata, an attribute stream. -/
def tunnel (v : SampleView) : Except AbsentField Bytes := present "tunnel" (v.table.get? .tunnel)

/-- Whether the rate is a probability. -/
def isProbability (v : SampleView) : Bool := v.table.contains .sampleProbability

end SampleView

/-! ## Changes to groups -/

/-- A change to a sampling group. -/
structure ConfigView where
  /-- The number of the command. -/
  code : UInt8
  table : AttrTable
deriving DecidableEq, Repr

namespace ConfigView

/-- The command, when the family defines it. -/
def command? (v : ConfigView) : Option Command := Command.ofCode? v.code

/-- Whether `group` can be read. -/
def hasGroup (v : ConfigView) : Bool := v.table.contains .sampleGroup

/-- The number of the sampling group. -/
def group (v : ConfigView) : Except AbsentField UInt32 :=
  present "group" (v.table.u32? .sampleGroup)

/-- Whether `groupSeq` can be read. -/
def hasGroupSeq (v : ConfigView) : Bool := v.table.contains .groupSeq

/-- The sequence number of the group's last sample. -/
def groupSeq (v : ConfigView) : Except AbsentField UInt32 :=
  present "group_seq" (v.table.u32? .groupSeq)

/-- Whether `groupRefcount` can be read. -/
def hasGroupRefcount (v : ConfigView) : Bool := v.table.contains .groupRefcount

/-- The number of sampling actions that use the group. -/
def groupRefcount (v : ConfigView) : Except AbsentField UInt32 :=
  present "group_refcount" (v.table.u32? .groupRefcount)

end ConfigView

/-! ## Events -/

/-- A notification of the sampling family. -/
inductive Event
  | sample (view : SampleView)
  | config (view : ConfigView)
deriving DecidableEq, Repr

/-- The event that a command with a table is: a sample, or else a change to a group. -/
def Event.classify (code : UInt8) (table : AttrTable) : Event :=
  if code = Command.sample.code then .sample ⟨table⟩ else .config ⟨code, table⟩

end SampleTap
