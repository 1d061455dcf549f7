import SampleTap.Capture.Pcap

/-!
# Destinations of frames

A capture writes its frames to a capture file or to an observer, which takes any frame but fails on
schedule. The trace tells every frame that was handed over and whether it was taken, every flush,
and every piece of a file that was written out.
-/

namespace SampleTap

/-- What was done with a destination of frames. -/
inductive SinkCall
  /-- A capture file was created, empty. -/
  | created (path : String)
  /-- A frame was handed over. -/
  | frame (data : Bytes) (wholeLength : UInt32) (taken : Bool)
  | flushed (succeeded : Bool)
  /-- Bytes of a capture file were written out. -/
  | written (data : Bytes)
deriving DecidableEq, Repr

/-- A destination that takes frames and keeps none. -/
structure Observer where
  /-- The error of the frame with a given ordinal, when it is refused. -/
  frameFaults : Nat → Option Error := fun _ => none
  /-- The error of the flush with a given ordinal, when it fails. -/
  flushFaults : Nat → Option Error := fun _ => none
  /-- The number of frames that were handed over. -/
  frames : Nat := 0
  /-- The number of flushes. -/
  flushes : Nat := 0

/-- A destination of frames. -/
inductive Sink
  | observer (observer : Observer)
  | file (file : PcapFile)

namespace Sink

/-- Whether a result is a success. -/
def succeeded {α : Type} : Except Error α → Bool
  | .ok _ => true
  | .error _ => false

/-- The scheduled outcome of a call. -/
def scheduled : Option Error → Except Error Unit
  | some e => .error e
  | none => .ok ()

/-- Hands over a frame. -/
def write (r : Pcap.Record) : Action SinkCall Sink Unit
  | .observer o =>
    let result := scheduled (o.frameFaults o.frames)
    ⟨.observer { o with frames := o.frames + 1 },
      [.frame r.frame r.wholeLength (succeeded result)], result⟩
  | .file f =>
    let ran := f.append r
    ⟨.file ran.state, .frame r.frame r.wholeLength (succeeded ran.result) :: ran.trace.map .written,
      ran.result⟩

/-- Lets waiting frames through. -/
def flush : Action SinkCall Sink Unit
  | .observer o =>
    let result := scheduled (o.flushFaults o.flushes)
    ⟨.observer { o with flushes := o.flushes + 1 }, [.flushed (succeeded result)], result⟩
  | .file f =>
    let ran := f.flush
    ⟨.file ran.state, .flushed (succeeded ran.result) :: ran.trace.map .written, ran.result⟩

/-- Gives the destination up; a file is still written out as far as possible. -/
def release : Sink → List SinkCall
  | .observer _ => []
  | .file f => f.flush.trace.map .written

end Sink

end SampleTap
