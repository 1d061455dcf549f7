import SampleTap.Capture
import SampleTap.Proofs.Action

/-!
# Frames of a capture

All frames of a capture are made in one buffer, whatever became of the frame before. What carries
that is an invariant: the buffer starts with the header, and the snapshot length leaves room behind
it (`Capture.Primed`). A new capture has it (`primed_of_room`), and writing keeps it
(`Primed.write`), whether the frame was taken or not.

With the invariant, a datagram is handed over as `Frame.ofDatagram`, which says the frame without a
buffer, and a frame that was taken is flushed at once (`Primed.handover_write`).
-/

namespace SampleTap

/-! ## Frames -/

namespace Frame

/-- The frame of a datagram. -/
def ofDatagram (snaplen : UInt32) (datagram : Bytes) : Bytes :=
  header ++ datagram.take (kept datagram.length snaplen)

/-- A frame is the header and what the snapshot length leaves of the datagram. -/
theorem length_ofDatagram (snaplen : UInt32) (datagram : Bytes) :
    (ofDatagram snaplen datagram).length = headerLength + kept datagram.length snaplen := by
  have hkept : kept datagram.length snaplen ≤ datagram.length := Nat.min_le_left ..
  rw [ofDatagram, List.length_append, length_header, List.length_take, Nat.min_eq_left hkept]

/-- A frame fits the snapshot length when its header does. -/
theorem length_ofDatagram_le {snaplen : UInt32} (h : headerLength ≤ snaplen.toNat)
    (datagram : Bytes) : (ofDatagram snaplen datagram).length ≤ snaplen.toNat := by
  have hkept : kept datagram.length snaplen ≤ snaplen.toNat - headerLength := Nat.min_le_right ..
  rw [length_ofDatagram]
  omega

/-- The length of such a frame fits its field. -/
theorem toNat_length_ofDatagram {snaplen : UInt32} (h : headerLength ≤ snaplen.toNat)
    (datagram : Bytes) : (UInt32.ofNat (ofDatagram snaplen datagram).length).toNat =
      (ofDatagram snaplen datagram).length :=
  UInt32.toNat_ofNat_of_lt' (Nat.lt_of_le_of_lt (length_ofDatagram_le h datagram) snaplen.toNat_lt)

end Frame

/-! ## What is done with frames -/

/-- What a capture does, without the pieces in which a file is written out. -/
inductive Move
  | received
  | framed (frame : Bytes) (wholeLength : UInt32) (taken : Bool)
  | flushed (succeeded : Bool)
deriving DecidableEq, Repr

/-- The frame that is handed over. -/
def Move.frame? : Move → Option Bytes
  | framed frame _ _ => some frame
  | _ => none

/-- The move that is made on a destination. -/
def SinkCall.move? : SinkCall → Option Move
  | frame data wholeLength taken => some (.framed data wholeLength taken)
  | flushed succeeded => some (.flushed succeeded)
  | created _ => none
  | written _ => none

/-- Handing a frame over: the moves, and what comes of it. A frame counts as being as long from the
start as it is. -/
inductive Handover (frame : Bytes) : List Move → Except Error Unit → Prop
  | refused (e : Error) :
      Handover frame [.framed frame (UInt32.ofNat frame.length) false] (.error e)
  | stuck (e : Error) :
      Handover frame [.framed frame (UInt32.ofNat frame.length) true, .flushed false] (.error e)
  | passed :
      Handover frame [.framed frame (UInt32.ofNat frame.length) true, .flushed true] (.ok ())

/-- A frame that is handed over is the one of the datagram, with its own length as the whole
length. -/
theorem Handover.of_mem_framed {frame : Bytes} {moves : List Move} {result : Except Error Unit}
    (h : Handover frame moves result) {frame' : Bytes} {wholeLength : UInt32} {taken : Bool}
    (hmem : .framed frame' wholeLength taken ∈ moves) :
    frame' = frame ∧ wholeLength = UInt32.ofNat frame.length := by
  cases h with
  | refused e =>
    simp only [List.mem_singleton, Move.framed.injEq] at hmem
    exact ⟨hmem.1, hmem.2.1⟩
  | stuck e =>
    simp only [List.mem_cons, Move.framed.injEq, reduceCtorEq, List.not_mem_nil, or_false] at hmem
    exact ⟨hmem.1, hmem.2.1⟩
  | passed =>
    simp only [List.mem_cons, Move.framed.injEq, reduceCtorEq, List.not_mem_nil, or_false] at hmem
    exact ⟨hmem.1, hmem.2.1⟩

namespace Sink

theorem moves_written (pieces : List Bytes) :
    (pieces.map SinkCall.written).filterMap SinkCall.move? = [] := by
  rw [List.filterMap_map]
  exact List.filterMap_eq_nil_iff.mpr fun _ _ => rfl

/-- Writing a record to a sink is one move. -/
theorem moves_write (r : Pcap.Record) (s : Sink) :
    (write r s).trace.filterMap SinkCall.move? =
      [.framed r.frame r.wholeLength (succeeded (write r s).result)] := by
  cases s with
  | observer o => rfl
  | file f =>
    show _ :: ((f.append r).trace.map SinkCall.written).filterMap SinkCall.move? = _
    rw [moves_written]
    rfl

theorem moves_flush (s : Sink) :
    (flush s).trace.filterMap SinkCall.move? = [.flushed (succeeded (flush s).result)] := by
  cases s with
  | observer o => rfl
  | file f =>
    show _ :: (f.flush.trace.map SinkCall.written).filterMap SinkCall.move? = _
    rw [moves_written]
    rfl

/-- Giving a destination up is no move: a file may still be written out. -/
theorem moves_release (s : Sink) : s.release.filterMap SinkCall.move? = [] := by
  cases s with
  | observer o => rfl
  | file f => exact moves_written f.flush.trace

end Sink

/-! ## The buffer -/

namespace Capture

/-- Whether a capture can take a datagram. -/
structure Primed (c : Capture) : Prop where
  header : c.buffer.take Frame.headerLength = Frame.header
  room : Frame.headerLength < c.snaplen.toNat

theorem start_of_room {snaplen : UInt32} (h : Frame.headerLength < snaplen.toNat) (sink : Sink)
    (clock : Clock) : start sink snaplen clock = .ok { sink, snaplen, clock } :=
  if_neg (Nat.not_le_of_lt h)

theorem primed_of_room {snaplen : UInt32} (h : Frame.headerLength < snaplen.toNat) (sink : Sink)
    (clock : Clock) : ({ sink, snaplen, clock } : Capture).Primed :=
  ⟨rfl, h⟩

/-- Nothing of an earlier datagram is left behind a later one. -/
theorem Primed.buffer_refill {c : Capture} (h : c.Primed) (datagram : Bytes) :
    (c.refill datagram).buffer = Frame.ofDatagram c.snaplen datagram := by
  show c.buffer.take Frame.headerLength ++ _ = Frame.header ++ _
  rw [h.header]

/-- A buffer that is refilled keeps its header. -/
theorem Primed.refill {c : Capture} (h : c.Primed) (datagram : Bytes) :
    (c.refill datagram).Primed := by
  refine ⟨?_, h.room⟩
  rw [h.buffer_refill]
  exact List.take_left' Frame.length_header

theorem onSink_eq {α : Type} (act : Action SinkCall Sink α) (c : Capture) :
    onSink act c =
      ⟨{ c with sink := (act c.sink).state }, (act c.sink).trace, (act c.sink).result⟩ := by
  rw [onSink, Action.on, List.map_id]

/-- Writing puts a datagram into the buffer, hands the buffer over, and flushes if it was taken. -/
theorem write_eq (datagram : Bytes) (c : Capture) :
    c.write datagram =
      let filled := c.refill datagram
      let written := Sink.write filled.record c.sink
      let flushed := Sink.flush written.state
      match written.result with
      | .error e => ⟨{ filled with frames := c.frames + 1, sink := written.state },
          written.trace, .error e⟩
      | .ok () => ⟨{ filled with frames := c.frames + 1, sink := flushed.state },
          written.trace ++ flushed.trace, flushed.result⟩ := by
  simp only [write, Bind.bind, Action.bind, Action.modify, Action.get, onSink_eq, Ran.after,
    List.nil_append]
  have hsink : (c.refill datagram).sink = c.sink := rfl
  rw [hsink]
  cases (Sink.write (c.refill datagram).record c.sink).result with
  | error e => rfl
  | ok _ => rfl

/-- A write ends with a frame that is refused, or with the flush behind one that is taken. -/
theorem write_cases (datagram : Bytes) (c : Capture) :
    let filled := c.refill datagram
    let written := Sink.write filled.record c.sink
    let flushed := Sink.flush written.state
    (∃ e, written.result = .error e ∧ c.write datagram =
      ⟨{ filled with frames := c.frames + 1, sink := written.state }, written.trace, .error e⟩) ∨
    (written.result = .ok () ∧ c.write datagram =
      ⟨{ filled with frames := c.frames + 1, sink := flushed.state },
        written.trace ++ flushed.trace, flushed.result⟩) := by
  rw [write_eq]
  dsimp only
  rcases Sink.write (c.refill datagram).record c.sink with ⟨sink, calls, e | _⟩
  · exact Or.inl ⟨e, rfl, rfl⟩
  · exact Or.inr ⟨rfl, rfl⟩

/-- Writing keeps the invariant, also when it fails. -/
theorem Primed.write {c : Capture} (h : c.Primed) (datagram : Bytes) :
    (c.write datagram).state.Primed ∧ (c.write datagram).state.snaplen = c.snaplen := by
  obtain ⟨hheader, hroom⟩ := h.refill datagram
  obtain ⟨e, -, hwrite⟩ | ⟨-, hwrite⟩ := c.write_cases datagram
  · rw [hwrite]
    exact ⟨⟨hheader, hroom⟩, rfl⟩
  · rw [hwrite]
    exact ⟨⟨hheader, hroom⟩, rfl⟩

/-- A datagram is handed over as its frame, and is flushed at once if that is taken. -/
theorem Primed.handover_write {c : Capture} (h : c.Primed) (datagram : Bytes) :
    Handover (Frame.ofDatagram c.snaplen datagram)
      ((c.write datagram).trace.filterMap SinkCall.move?) (c.write datagram).result := by
  have hframe : (c.refill datagram).record.frame = Frame.ofDatagram c.snaplen datagram :=
    h.buffer_refill datagram
  have hwhole : (c.refill datagram).record.wholeLength =
      UInt32.ofNat (Frame.ofDatagram c.snaplen datagram).length := by
    rw [← hframe]
    rfl
  have hmoves := Sink.moves_write (c.refill datagram).record c.sink
  rw [hframe, hwhole] at hmoves
  obtain ⟨e, hrefused, hwrite⟩ | ⟨htaken, hwrite⟩ := c.write_cases datagram
  · rw [hrefused] at hmoves
    rw [hwrite, hmoves]
    exact .refused e
  · have hflush := Sink.moves_flush (Sink.write (c.refill datagram).record c.sink).state
    rw [htaken] at hmoves
    rw [hwrite, List.filterMap_append, hmoves, hflush]
    cases (Sink.flush (Sink.write (c.refill datagram).record c.sink).state).result with
    | error e => exact .stuck e
    | ok _ => exact .passed

end Capture
end SampleTap
