import SampleTap.Capture.Sink

/-!
# Captures

A capture turns datagrams into frames: a header that says "netlink" to a reader of the capture, then
the datagram, cut to the snapshot length. The header is never cut, and a cut frame counts as being
that long from the start. All frames of a capture are made in one buffer, which starts out with the
header.
-/

namespace SampleTap

/-! ## Frames -/

namespace Frame

/-- The header of a frame: an outgoing packet of a netlink device without an address. All fields
have the highest byte first. -/
def header : Bytes := [0x00, 0x04, 0x03, 0x38, 0, 0, 0, 0, 0, 0, 0, 0, 0, 0, 0x00, 0x10]

/-- The size of the header. -/
def headerLength : Nat := 16

@[simp] theorem length_header : header.length = headerLength := rfl

/-- How many of `length` bytes are kept under a snapshot length. -/
def kept (length : Nat) (snaplen : UInt32) : Nat := min length (snaplen.toNat - headerLength)

end Frame

/-! ## Captures -/

/-- The times of a capture's frames, by ordinal. -/
abbrev Clock : Type := Nat → Timestamp

/-- A capture that is under way. -/
structure Capture where
  sink : Sink
  snaplen : UInt32
  clock : Clock
  /-- The header and what is left of the last frame. -/
  buffer : Bytes := Frame.header
  /-- The number of frames so far. -/
  frames : Nat := 0

namespace Capture

/-- The snapshot length of a capture that names none. -/
def defaultSnaplen : UInt32 := 0xffff

/-- A capture into `sink`; the snapshot length must leave room after the header. -/
def start (sink : Sink) (snaplen : UInt32) (clock : Clock) : Except Error Capture :=
  if snaplen.toNat ≤ Frame.headerLength then
    .error (.capture (.snaplenTooSmall snaplen Frame.headerLength))
  else .ok { sink, snaplen, clock }

/-- An action on the capture's destination. -/
def onSink {α : Type} (act : Action SinkCall Sink α) : Action SinkCall Capture α :=
  Action.on sink (fun c s => { c with sink := s }) id act

/-- Puts a datagram into the buffer, behind the header and in place of what was there. -/
def refill (c : Capture) (datagram : Bytes) : Capture :=
  { c with buffer :=
      c.buffer.take Frame.headerLength ++ datagram.take (Frame.kept datagram.length c.snaplen) }

/-- The record of what is in the buffer. -/
def record (c : Capture) : Pcap.Record :=
  ⟨c.clock c.frames, c.buffer, UInt32.ofNat c.buffer.length⟩

/-- Writes the frame of a datagram and lets it through. -/
def write (datagram : Bytes) : Action SinkCall Capture Unit := do
  Action.modify fun c => c.refill datagram
  let c ← Action.get
  Action.modify fun c => { c with frames := c.frames + 1 }
  onSink (Sink.write c.record)
  onSink Sink.flush

/-- Lets waiting frames through and gives the destination up. -/
def finish (c : Capture) : List SinkCall × Except Error Unit :=
  let ran := onSink Sink.flush c
  (ran.trace ++ ran.state.sink.release, ran.result)

end Capture

end SampleTap
