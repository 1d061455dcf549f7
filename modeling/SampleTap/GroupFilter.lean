import SampleTap.Bpf
import SampleTap.CommandHeader
import SampleTap.Message

/-!
# Filters for one sampling group

The filter looks up the group attribute behind the message's headers and accepts the packet when
there is none or when its value is the group. Packet loads are big-endian and attributes in host
order, so the value is compared with the group's bytes in the other order.
-/

namespace SampleTap

/-- A filter that accepts the samples of one group. -/
structure GroupFilter where
  group : UInt32
deriving DecidableEq, Repr

namespace GroupFilter

/-- The integer that a packet load finds where `w` is stored in host order. -/
def asLoaded (w : UInt32) : UInt32 := UInt32.ofNat (Bytes.bigNat (Bytes.ofWord32 w))

/-- The instructions of the filter. -/
def program (f : GroupFilter) : Bpf.Program := [
  -- Search from the first attribute for the group's number.
  { code := 0x00, operand := UInt32.ofNat (Message.headerLength + CommandHeader.length) },
  { code := 0x01, operand := UInt32.ofNat AttrId.sampleGroup.index },
  { code := 0x20, operand := Bpf.ancillaryBase + Bpf.attributeSearch },
  -- No such attribute: accept.
  { code := 0x15, jumpTrue := 4, operand := 0 },
  -- Load the value behind the attribute's header and compare it with the group.
  { code := 0x07, operand := 0 },
  { code := 0x40, operand := UInt32.ofNat Attribute.headerLength },
  { code := 0x15, jumpTrue := 1, operand := asLoaded f.group },
  { code := 0x06, operand := 0 },
  { code := 0x06, operand := 0xffffffff }]

end GroupFilter

end SampleTap
