import SampleTap.Writer

/-!
# Capture files

The format of a capture file: a header of twenty-four bytes, then records of a sixteen-byte header
and a frame. All integers are in host order, and times are in microseconds. The seconds of a frame's
time must fit thirty-two bits, and the frame must fit its file's snapshot length and the length that
it had before it was cut. `Record.fault?` checks these in that order, before any byte is written.
-/

namespace SampleTap

/-- A time since the epoch. -/
structure Timestamp where
  seconds : Nat
  nanoseconds : Nat
deriving DecidableEq, Repr

/-- The time of so many seconds and nanoseconds, of which a thousand million make a second. -/
def Timestamp.ofParts (seconds nanoseconds : Nat) : Timestamp :=
  ⟨seconds + nanoseconds / 1000000000, nanoseconds % 1000000000⟩

namespace Pcap

/-! ## Format -/

/-- The link type of netlink captures. -/
def linkType : Nat := 253

/-- The header of a capture file: magic number, version 2.4, no time zone, no accuracy, the snapshot
length and the link type. -/
def fileHeader (snaplen : UInt32) : Bytes :=
  Bytes.ofWord32 0xa1b2c3d4 ++ Bytes.ofWord16 2 ++ Bytes.ofWord16 4 ++ Bytes.ofWord32 0 ++
    Bytes.ofWord32 0 ++ Bytes.ofWord32 snaplen ++ Bytes.littleEndian 4 linkType

/-- A captured frame. -/
structure Record where
  time : Timestamp
  frame : Bytes
  /-- The length of the frame before it was cut. -/
  wholeLength : UInt32
deriving DecidableEq, Repr

namespace Record

/-- Why a file of a given snapshot length cannot hold the record. -/
def fault? (snaplen : UInt32) (r : Record) : Option CaptureFault :=
  if 0x100000000 ≤ r.time.seconds then some .timeOutOfRange
  else if snaplen.toNat < r.frame.length then some .frameAboveSnaplen
  else if r.wholeLength.toNat < r.frame.length then some .frameAboveWhole
  else none

/-- The bytes of a record. -/
def encode (r : Record) : Bytes :=
  Bytes.littleEndian 4 r.time.seconds ++ Bytes.littleEndian 4 (r.time.nanoseconds / 1000) ++
    Bytes.littleEndian 4 r.frame.length ++ Bytes.ofWord32 r.wholeLength ++ r.frame

end Record

end Pcap

/-! ## Files -/

/-- A capture file that is being written. -/
structure PcapFile where
  snaplen : UInt32
  writer : Writer
deriving DecidableEq, Repr

namespace PcapFile

/-- Starts a file by writing its header. -/
def create (snaplen : UInt32) (writer : Writer) : Ran Bytes Writer PcapFile :=
  let r := Writer.put (Pcap.fileHeader snaplen) writer
  ⟨r.state, r.trace, r.result.map fun _ => ⟨snaplen, r.state⟩⟩

/-- An action on the file's writer. -/
def onWriter {α : Type} (act : Writer.Act α) : Action Bytes PcapFile α :=
  Action.on writer (fun f w => { f with writer := w }) id act

/-- Appends a record. -/
def append (r : Pcap.Record) : Action Bytes PcapFile Unit := fun f =>
  match r.fault? f.snaplen with
  | some fault => ⟨f, [], .error (.capture fault)⟩
  | none => onWriter (Writer.put r.encode) f

/-- Passes on what waits. -/
def flush : Action Bytes PcapFile Unit := onWriter Writer.flush

end PcapFile

end SampleTap
