import SampleTap.Proofs.Session.Capturing

/-!
# What starts a capture

A capture starts with the datagrams in which the controller describes the family. The loop hands a
datagram over before it looks whose it is: it looks only for the end of the reply. So the frames at
the start are those of all datagrams up to that end, and they are those of the reply alone exactly
when no datagram of another request stood among them (`frames_startCapture_iff`).

A dump of the groups that was broken off leaves such datagrams behind
(`startCapture_frames_leftover`).
-/

namespace SampleTap

/-- Whether a datagram has a message with a given sequence number. -/
def Message.answers (seq : UInt32) (data : Bytes) : Bool :=
  (split data).1.any fun m => m.header.seq == seq

theorem Message.answers_nil (seq : UInt32) : answers seq [] = false := by
  rw [answers, split_nil]
  rfl

/-- A datagram without bytes answers nothing. -/
theorem Message.filter_answers (seq : UInt32) (datagrams : List Bytes) :
    datagrams.filter (answers seq) = (datagrams.filter (!·.isEmpty)).filter (answers seq) := by
  rw [List.filter_filter]
  refine List.filter_congr fun data _ => ?_
  cases data with
  | nil => rw [answers_nil, Bool.false_and]
  | cons byte rest => exact (Bool.and_true _).symm

/-- Nothing is missing from a filtered list, as far as its length tells, exactly when all of it
passes the filter. -/
theorem map_eq_map_filter_iff {α β : Type} (f : α → β) (p : α → Bool) (l : List α) :
    l.map f = (l.filter p).map f ↔ ∀ a ∈ l, p a := by
  constructor
  · intro hsame
    have hlength := congrArg List.length hsame
    rw [List.length_map, List.length_map] at hlength
    exact List.length_filter_eq_length_iff.mp hlength.symm
  · intro hall
    rw [List.filter_eq_self.mpr hall]

theorem filterMap_datagram? (datagrams : List Bytes) :
    (datagrams.map Except.ok).filterMap datagram? = datagrams.filter (!·.isEmpty) := by
  induction datagrams with
  | nil => rfl
  | cons data rest ih =>
    cases data with
    | nil => exact ih
    | cons byte bytes => exact congrArg ((byte :: bytes) :: ·) ih

namespace Session

theorem of_startCapture_ok {s : Session} {sink : Sink} {snaplen : UInt32} {clock : Clock}
    (h : (startCapture sink snaplen clock s).result = .ok ()) :
    s.capture = none ∧ Frame.headerLength < snaplen.toNat := by
  cases hcapture : s.capture with
  | some capture =>
    rw [startCapture_of_active (by rw [hcapture]; rfl)] at h
    simp at h
  | none =>
    by_cases hroom : Frame.headerLength < snaplen.toNat
    · exact ⟨rfl, hroom⟩
    · rw [startCapture_of_short hcapture (Nat.le_of_not_lt hroom)] at h
      simp at h

/-- A capture that was started holds every datagram up to the end of the reply. It holds only those
with an answer to its request exactly when there were no others. -/
theorem frames_startCapture_iff {s : Session} {sink : Sink} {snaplen : UInt32} {clock : Clock}
    (h : (startCapture sink snaplen clock s).result = .ok ()) :
    let started := startCapture sink snaplen clock s
    let seq := s.control.socket.nextSeq
    let frames := started.trace.filterMap Effect.frame?
    ∃ datagrams : List Bytes, ReadThrough (replyProceeds seq) datagrams ∧
      s.control.socket.queue = datagrams.map .datagram ++ started.state.control.socket.queue ∧
      frames = (datagrams.filter (!·.isEmpty)).map (Frame.ofDatagram snaplen) ∧
      (frames = (datagrams.filter (Message.answers seq)).map (Frame.ofDatagram snaplen) ↔
        ∀ data ∈ datagrams, data ≠ [] → Message.answers seq data) := by
  intro started seq frames
  obtain ⟨hidle, hroom⟩ := of_startCapture_ok h
  obtain ⟨outcomes, hcaptured, hok⟩ := exists_captured_startCapture hidle hroom sink clock
  obtain ⟨-, datagrams, houtcomes, hthrough⟩ := hok h
  have hframes : frames = (datagrams.filter (!·.isEmpty)).map (Frame.ofDatagram snaplen) := by
    rw [← filterMap_datagram?, ← houtcomes]
    exact hcaptured.frames_eq
  refine ⟨datagrams, hthrough, ?_, hframes, ?_⟩
  · have hqueue := Socket.queue_of_receipts (houtcomes ▸ hcaptured.received)
    rw [hcaptured.queue, houtcomes, List.length_map]
    exact hqueue
  · have hwhole : (∀ data ∈ datagrams.filter (!·.isEmpty), Message.answers seq data) ↔
        ∀ data ∈ datagrams, data ≠ [] → Message.answers seq data := by
      simp
    rw [hframes, Message.filter_answers, ← hwhole]
    exact map_eq_map_filter_iff _ _ _

/-- A reply of two datagrams, with nothing else in front. -/
theorem frames_startCapture_iff_reply :
    let s := (withArrivals []).withReplies [.datagram familyReply, .datagram (replyEnd 1)]
    let started := startCapture (.observer {}) 0xffff (fun _ => ⟨0, 0⟩) s
    let frames := started.trace.filterMap Effect.frame?
    started.result = .ok () ∧
    ∃ datagrams : List Bytes, ReadThrough (replyProceeds 1) datagrams ∧
      s.control.socket.queue = datagrams.map .datagram ++ started.state.control.socket.queue ∧
      frames = (datagrams.filter (!·.isEmpty)).map (Frame.ofDatagram 0xffff) ∧
      (frames = (datagrams.filter (Message.answers 1)).map (Frame.ofDatagram 0xffff) ↔
        ∀ data ∈ datagrams, data ≠ [] → Message.answers 1 data) := by
  intro s started frames
  have hok : started.result = .ok () := by decide +kernel
  exact ⟨hok, frames_startCapture_iff hok⟩

/-- The end of a dump that was broken off is in the capture that is started next, although only the
datagram behind it answers the capture's own request. -/
theorem startCapture_frames_leftover :
    let cut : Visitor GroupDescriptor Unit Unit := fun x _ => (x, .stop ())
    let opened := (withArrivals []).withReplies [.datagram (groupReply 1 5), .datagram (replyEnd 1)]
    let dump : Task := .forEachGroup cut ()
    let s := afterAll [dump, .arrive .control [.datagram (replyEnd 2)]] opened
    let started := startCapture (.observer {}) 0xffff (fun _ => ⟨0, 0⟩) s
    let answers := Message.answers s.control.socket.nextSeq
    let frames := started.trace.filterMap Effect.frame?
    let datagrams := [replyEnd 1, replyEnd 2]
    started.result = .ok () ∧
      s.control.socket.queue = datagrams.map .datagram ++ started.state.control.socket.queue ∧
      datagrams.filter answers = [replyEnd 2] ∧
      frames = datagrams.map (Frame.ofDatagram 0xffff) ∧
      frames ≠ (datagrams.filter answers).map (Frame.ofDatagram 0xffff) := by
  decide +kernel

end Session
end SampleTap
