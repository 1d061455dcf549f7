/-!
# Attribute identifiers of the sampling family

The seventeen attributes that a sampling notification or a group record can carry, numbered from
zero.
-/

namespace SampleTap

/-- An attribute of the sampling family. -/
inductive AttrId
  /-- Index of the interface a packet came in on. -/
  | iifIndex
  /-- Index of the interface a packet went out on. -/
  | oifIndex
  /-- Length of a packet before it was cut. -/
  | origSize
  /-- Number of the sampling group. -/
  | sampleGroup
  /-- Sequence number within the group. -/
  | groupSeq
  /-- Sampling rate. -/
  | sampleRate
  /-- The sampled bytes. -/
  | data
  /-- Number of sampling actions that use the group. -/
  | groupRefcount
  /-- Tunnel metadata, a nested attribute stream. -/
  | tunnel
  /-- Padding, without meaning. -/
  | pad
  /-- Egress traffic class. -/
  | outTc
  /-- Egress queue occupancy in bytes. -/
  | outTcOcc
  /-- Transit latency in nanoseconds. -/
  | latency
  /-- Sampling time in nanoseconds. -/
  | timestamp
  /-- Ethertype of the sampled packet. -/
  | proto
  /-- Cookie attached by the sampling action. -/
  | userCookie
  /-- Marks the sampling rate as a probability. -/
  | sampleProbability
deriving DecidableEq, Repr

namespace AttrId

/-- Every identifier, in numeric order. -/
def all : List AttrId :=
  [iifIndex, oifIndex, origSize, sampleGroup, groupSeq, sampleRate, data, groupRefcount, tunnel,
    pad, outTc, outTcOcc, latency, timestamp, proto, userCookie, sampleProbability]

/-- The greatest attribute number. -/
def max : Nat := 16

/-- The number of an attribute. -/
def index : AttrId → Fin (max + 1)
  | iifIndex => 0
  | oifIndex => 1
  | origSize => 2
  | sampleGroup => 3
  | groupSeq => 4
  | sampleRate => 5
  | data => 6
  | groupRefcount => 7
  | tunnel => 8
  | pad => 9
  | outTc => 10
  | outTcOcc => 11
  | latency => 12
  | timestamp => 13
  | proto => 14
  | userCookie => 15
  | sampleProbability => 16

/-- The attribute with a given number. -/
def ofNat? (n : Nat) : Option AttrId := all[n]?

theorem ofNat?_index (id : AttrId) : ofNat? id.index = some id := by
  cases id <;> rfl

theorem ofNat?_eq_none_iff {n : Nat} : ofNat? n = none ↔ max < n := by
  simp [ofNat?, all, max]; omega

theorem mem_all (id : AttrId) : id ∈ all := by
  cases id <;> decide

/-- The least payload length that the attribute is accepted with. -/
def minLength : AttrId → Nat
  | iifIndex | oifIndex => 2
  | origSize | sampleGroup | groupSeq | sampleRate | groupRefcount => 4
  | _ => 0

/-- The attribute's name in the kernel's interface. -/
def name : AttrId → String
  | iifIndex => "PSAMPLE_ATTR_IIFINDEX"
  | oifIndex => "PSAMPLE_ATTR_OIFINDEX"
  | origSize => "PSAMPLE_ATTR_ORIGSIZE"
  | sampleGroup => "PSAMPLE_ATTR_SAMPLE_GROUP"
  | groupSeq => "PSAMPLE_ATTR_GROUP_SEQ"
  | sampleRate => "PSAMPLE_ATTR_SAMPLE_RATE"
  | data => "PSAMPLE_ATTR_DATA"
  | groupRefcount => "PSAMPLE_ATTR_GROUP_REFCOUNT"
  | tunnel => "PSAMPLE_ATTR_TUNNEL"
  | pad => "PSAMPLE_ATTR_PAD"
  | outTc => "PSAMPLE_ATTR_OUT_TC"
  | outTcOcc => "PSAMPLE_ATTR_OUT_TC_OCC"
  | latency => "PSAMPLE_ATTR_LATENCY"
  | timestamp => "PSAMPLE_ATTR_TIMESTAMP"
  | proto => "PSAMPLE_ATTR_PROTO"
  | userCookie => "PSAMPLE_ATTR_USER_COOKIE"
  | sampleProbability => "PSAMPLE_ATTR_SAMPLE_PROBABILITY"

end AttrId

end SampleTap
