import SampleTap.Bytes

/-!
# Command headers

Four bytes between a message's header and its attributes: the command, the version of the family's
protocol, and two reserved bytes.
-/

namespace SampleTap

/-- The header of a generic netlink command. -/
structure CommandHeader where
  command : UInt8
  version : UInt8
  reserved : UInt16 := 0
deriving DecidableEq, Repr

namespace CommandHeader

/-- The bytes of a command header. -/
def encode (h : CommandHeader) : Bytes := [h.command, h.version] ++ Bytes.ofWord16 h.reserved

/-- The size of a command header. -/
def length : Nat := 4

@[simp] theorem length_encode (h : CommandHeader) : h.encode.length = length := by
  simp [encode, length]

/-- The command header that a payload starts with, and the attributes behind it. -/
def split? : Bytes → Option (CommandHeader × Bytes)
  | command :: version :: rest => do
    let reserved ← Bytes.word16? rest
    return (⟨command, version, reserved⟩, rest.drop 2)
  | _ => none

theorem split?_encode_append (h : CommandHeader) (rest : Bytes) :
    split? (h.encode ++ rest) = some (h, rest) := by
  have hd : (Bytes.ofWord16 h.reserved ++ rest).drop 2 = rest := by
    rw [List.drop_append_of_le_length (by simp), List.drop_of_length_le (by simp), List.nil_append]
  simp [encode, split?, Bytes.word16?_ofWord16_append, hd]

end CommandHeader

end SampleTap
