import SampleTap.Attribute
import SampleTap.CommandHeader
import SampleTap.Message

/-!
# Building messages

A builder keeps the fields of a message's header apart from its body, which grows at the end and
stays padded to four bytes. A nested attribute is opened by writing its header with no payload, and
closed by patching its length once its payload is there.
-/

namespace SampleTap

/-- A message under construction. -/
structure MessageBuilder where
  type : UInt16
  flags : UInt16
  seq : UInt32 := 0
  sender : UInt32 := 0
  /-- The padded payload so far. -/
  body : Bytes := []
deriving DecidableEq, Repr

namespace MessageBuilder

/-- An open nested attribute: the offset of its header in the body. -/
structure Nest where
  offset : Nat
deriving DecidableEq, Repr

/-- Appends bytes and pads the body. -/
def append (b : MessageBuilder) (data : Bytes) : MessageBuilder :=
  { b with body := Bytes.pad (b.body ++ data) }

/-- Appends a command header. -/
def appendCommand (b : MessageBuilder) (h : CommandHeader) : MessageBuilder := b.append h.encode

/-- Appends an attribute of a given type. -/
def attr (b : MessageBuilder) (type : UInt16) (payload : Bytes) : MessageBuilder :=
  b.append ((Attribute.Header.ofPayload type payload.length).encode ++ payload)

/-- Appends an attribute that holds a sixteen-bit integer. -/
def attrU16 (b : MessageBuilder) (type : UInt16) (value : UInt16) : MessageBuilder :=
  b.attr type (Bytes.ofWord16 value)

/-- Appends an attribute that holds a thirty-two-bit integer. -/
def attrU32 (b : MessageBuilder) (type : UInt16) (value : UInt32) : MessageBuilder :=
  b.attr type (Bytes.ofWord32 value)

/-- Appends an attribute that holds a sixty-four-bit integer. -/
def attrU64 (b : MessageBuilder) (type : UInt16) (value : UInt64) : MessageBuilder :=
  b.attr type (Bytes.ofWord64 value)

/-- Appends an attribute that holds a text and the zero byte that ends it. -/
def attrText (b : MessageBuilder) (type : UInt16) (value : String) : MessageBuilder :=
  b.attr type (Bytes.ofText value ++ [0])

/-- Opens a nested attribute. -/
def openNest (b : MessageBuilder) (type : UInt16) : MessageBuilder × Nest :=
  let header := Attribute.Header.ofPayload (type ||| Attribute.nestedFlag) 0
  ({ b with body := b.body ++ header.encode }, ⟨b.body.length⟩)

/-- `data` with the bytes from `offset` on replaced by those of `patch`. -/
def overwrite (data : Bytes) (offset : Nat) (patch : Bytes) : Bytes :=
  data.take offset ++ patch ++ data.drop (offset + patch.length)

/-- Closes a nested attribute: its length becomes the distance from its header to the end of the
body, of which the field keeps the low sixteen bits. -/
def closeNest (b : MessageBuilder) (nest : Nest) : MessageBuilder :=
  let length := UInt16.ofNat (b.body.length - nest.offset)
  { b with body := Bytes.pad (overwrite b.body nest.offset (Bytes.ofWord16 length)) }

/-- The header of the finished message. -/
def header (b : MessageBuilder) : Message.Header :=
  ⟨UInt32.ofNat (Message.headerLength + b.body.length), b.type, b.flags, b.seq, b.sender⟩

/-- The bytes of the finished message. -/
def finish (b : MessageBuilder) : Bytes := b.header.encode ++ b.body

end MessageBuilder

end SampleTap
