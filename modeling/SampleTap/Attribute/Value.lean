import SampleTap.Attribute

/-!
# Attribute values

Reads of a payload as an integer or as text. Integers are in host order, and bytes past the integer
are ignored; a text ends at its first zero byte, or with the payload when it has none.
-/

namespace SampleTap.Attribute

/-- The read's result, or the fault of a payload that is too short for an integer. -/
private def orShort {α : Type} (type : IntType) (payload : Bytes) : Option α → Except Error α
  | some value => .ok value
  | none => .error (.invalidAttribute (.integerShort type payload.length))

/-- The payload as a sixteen-bit integer. -/
def readU16 (payload : Bytes) : Except Error UInt16 :=
  orShort .u16 payload (Bytes.word16? payload)

/-- The payload as a thirty-two-bit integer. -/
def readU32 (payload : Bytes) : Except Error UInt32 :=
  orShort .u32 payload (Bytes.word32? payload)

/-- The payload as a sixty-four-bit integer. -/
def readU64 (payload : Bytes) : Except Error UInt64 :=
  orShort .u64 payload (Bytes.word64? payload)

/-- The payload's bytes before the first zero byte. -/
def textBytes (payload : Bytes) : Bytes := payload.takeWhile (· != 0)

/-- The payload as text. -/
def readText (payload : Bytes) : Except Error String :=
  match Utf8.decode (textBytes payload) with
  | .ok text => .ok text
  | .error fault => .error (.invalidAttribute (.notText fault))

end SampleTap.Attribute
