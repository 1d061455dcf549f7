import SampleTap.AttrId
import SampleTap.Errno
import SampleTap.Text.Utf8

/-!
# Errors

Everything that can go wrong, told apart by cause. The wording of a cause is in one place
(`Error.message`), and so are the questions that callers ask about an error: its number
(`Error.errno?`) and whether it means "not found", "not permitted", "nothing to receive" or "this
message cannot be decoded".
-/

namespace SampleTap

/-! ## Causes -/

/-- A failure of an input or output operation. -/
inductive IoFailure
  /-- The operating system refused, with an error number. -/
  | os (errno : Int)
  /-- A send accepted only part of a message. -/
  | shortSend (sent total : Nat)
  /-- A writer took no more bytes. -/
  | writerFull
  /-- A file name contains the byte zero. -/
  | zeroInName
deriving DecidableEq, Repr

/-- The integer types of attribute payloads. -/
inductive IntType
  | u16
  | u32
  | u64
deriving DecidableEq, Repr

/-- What is wrong with a message. -/
inductive MessageFault
  /-- The declared length is below the header's, or above the bytes that are left. -/
  | lengthOutOfBounds (length left : Nat)
  /-- The payload has no room for the command header. -/
  | commandHeaderShort
  /-- A family description carries no identifier. -/
  | familyIdMissing
  /-- A filter program holds an instruction outside the supported set. -/
  | opcodeUnsupported (code : UInt16)
  /-- A filter program ended without returning. -/
  | programOverrun
  /-- A fault that a visitor of messages reported. -/
  | reported (text : String)
deriving DecidableEq, Repr

/-- What is wrong with an attribute. -/
inductive AttributeFault
  /-- The declared length is below the header's, or above the bytes that are left. -/
  | lengthOutOfBounds (kind : UInt16) (length left : Nat)
  /-- The payload is too short for an integer. -/
  | integerShort (type : IntType) (length : Nat)
  /-- The payload is not text. -/
  | notText (fault : Utf8.Fault)
  /-- The number belongs to no attribute of the family. -/
  | outOfRange (kind : UInt16)
  /-- The payload is shorter than the attribute's type. -/
  | tooShort (kind : UInt16) (length least : Nat)
  /-- A fault that a visitor of messages reported. -/
  | reported (text : String)
deriving DecidableEq, Repr

/-- What is wrong with a capture. -/
inductive CaptureFault
  /-- The snapshot length leaves no room after the frame's header. -/
  | snaplenTooSmall (snaplen : UInt32) (header : Nat)
  /-- The seconds of a time stamp do not fit their field. -/
  | timeOutOfRange
  /-- A frame is longer than the file's snapshot length. -/
  | frameAboveSnaplen
  /-- A frame is longer than its declared length before the cut. -/
  | frameAboveWhole
  /-- A fault that a destination of frames reported. -/
  | reported (text : String)
deriving DecidableEq, Repr

/-- An error of the library. -/
inductive Error
  | io (failure : IoFailure)
  /-- The kernel answered a request with an error number. -/
  | kernel (errno : Int)
  /-- The same, with the operation that the request was made for. -/
  | kernelDuring (operation : String) (errno : Int)
  | truncated (expected actual : Nat)
  | invalidMessage (fault : MessageFault)
  | invalidAttribute (fault : AttributeFault)
  | missingAttribute (id : AttrId)
  | familyNotFound (name : String)
  | groupNotFound (name : String)
  | capture (fault : CaptureFault)
  | captureNotInitialized
  | captureAlreadyInitialized
deriving DecidableEq, Repr

/-! ## Wording -/

/-- The wording of an input or output failure. -/
def IoFailure.message : IoFailure → String
  | os errno => Errno.message errno
  | shortSend sent total =>
    "short netlink send: " ++ toString sent ++ " of " ++ toString total ++ " bytes"
  | writerFull => "failed to write whole buffer"
  | zeroInName => "file name contained an unexpected NUL byte"

/-- The size of an integer type in bytes. -/
def IntType.size : IntType → Nat
  | u16 => 2
  | u32 => 4
  | u64 => 8

/-- The name of an integer type. -/
def IntType.name : IntType → String
  | u16 => "u16"
  | u32 => "u32"
  | u64 => "u64"

/-- An opcode as four hexadecimal digits. -/
def MessageFault.opcodeText (code : UInt16) : String :=
  "0x" ++ Bytes.hex [(code >>> 8).toUInt8, code.toUInt8]

/-- The wording of a message fault. -/
def MessageFault.message : MessageFault → String
  | lengthOutOfBounds length left =>
    "message length " ++ toString length ++ " out of bounds (" ++ toString left ++ " bytes left)"
  | commandHeaderShort => "GENL header too short"
  | familyIdMissing => "missing family ID"
  | opcodeUnsupported code => "unsupported BPF opcode " ++ opcodeText code
  | programOverrun => "BPF program ran past its last instruction"
  | reported text => text

/-- The wording of an attribute fault. -/
def AttributeFault.message : AttributeFault → String
  | lengthOutOfBounds kind length left =>
    "attribute " ++ toString kind ++ " has invalid length " ++ toString length ++ " (" ++
      toString left ++ " bytes left)"
  | integerShort type length =>
    type.name ++ " attribute needs " ++ toString type.size ++ " bytes, has " ++ toString length
  | notText fault => "invalid UTF-8: " ++ fault.message
  | outOfRange kind =>
    "attribute " ++ toString kind ++ " out of range (max " ++ toString AttrId.max ++ ")"
  | tooShort kind length least =>
    "attribute " ++ toString kind ++ " is " ++ toString length ++ " bytes, expected " ++
      toString least
  | reported text => text

/-- The wording of a capture fault. -/
def CaptureFault.message : CaptureFault → String
  | snaplenTooSmall snaplen header =>
    "snapshot length " ++ toString snaplen ++ " leaves no room after the " ++ toString header ++
      " byte header"
  | timeOutOfRange => "Invalid field value: PcapPacket: timestamp_secs > u32::MAX"
  | frameAboveSnaplen => "Invalid field value: PcapPacket: incl_len > snap_len"
  | frameAboveWhole => "Invalid field value: PcapPacket: incl_len > orig_len"
  | reported text => text

namespace Error

/-- The wording of an error. -/
def message : Error → String
  | io failure => "I/O error: " ++ failure.message
  | kernel errno =>
    "kernel error: " ++ Errno.message errno ++ " (errno " ++ toString errno ++ ")"
  | kernelDuring operation errno =>
    operation ++ ": " ++ Errno.message errno ++ " (errno " ++ toString errno ++ ")"
  | truncated expected actual =>
    "message truncated: expected " ++ toString expected ++ " bytes, got " ++ toString actual
  | invalidMessage fault => "invalid message: " ++ fault.message
  | invalidAttribute fault => "invalid attribute: " ++ fault.message
  | missingAttribute id => "missing attribute: " ++ id.name
  | familyNotFound name => "generic netlink family not found: " ++ name
  | groupNotFound name => "multicast group not found: " ++ name
  | capture fault => "capture error: " ++ fault.message
  | captureNotInitialized => "capture not initialized"
  | captureAlreadyInitialized => "capture already initialized"

/-- The wording of an error followed by that of its cause, when the cause is an error of its own. -/
def chain : Error → String
  | io failure => (io failure).message ++ ": " ++ failure.message
  | e => e.message

/-! ## Making errors -/

/-- The operating system's error with a given number. -/
def os (errno : Int) : Error := io (.os errno)

/-- The error that a kernel reply with a (negated) error code stands for. The code is negated in its
32 bits, where the least integer has no opposite and stays as it is. -/
def ofReplyCode (code : Int32) : Error := kernel (-code).toInt

/-- Names the operation that a kernel error belongs to; other errors stay as they are. -/
def during (operation : String) : Error → Error
  | kernel errno => kernelDuring operation errno
  | e => e

/-! ## Questions about errors -/

/-- The error number, for errors of the kernel and the operating system. -/
def errno? : Error → Option Int
  | kernel errno | kernelDuring _ errno | io (.os errno) => some errno
  | _ => none

/-- Whether a device, a family or a group does not exist. -/
def isNotFound : Error → Bool
  | kernel errno | kernelDuring _ errno => errno == Errno.noEntry || errno == Errno.noDevice
  | familyNotFound _ | groupNotFound _ => true
  | _ => false

/-- Whether the caller lacks a permission. -/
def isPermissionDenied (e : Error) : Bool :=
  e.errno? == some Errno.notPermitted || e.errno? == some Errno.accessDenied

/-- Whether a receive found the queue empty. -/
def isWouldBlock : Error → Bool
  | io (.os errno) => errno == Errno.wouldBlock
  | _ => false

/-- Whether a single message failed to decode. -/
def isDecodeError : Error → Bool
  | invalidAttribute _ | invalidMessage _ | truncated .. | missingAttribute _ => true
  | _ => false

end Error

end SampleTap
