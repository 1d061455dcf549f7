import SampleTap.Proofs.Message.Builder
import SampleTap.Proofs.Session.Leftovers
import SampleTap.Proofs.Socket.Packing

/-!
# Requests whose replies are packed otherwise

How the messages of a reply were packed into datagrams shows neither in what a visitor of groups is
shown, nor in what comes of asking for the groups, nor in what opening a connection comes to
(`packing_changes_nothing`). Terminators, kernel errors, records that cannot be read and the visitor
itself may end the reply anywhere in a datagram.

Each datagram has to fit the receive buffer: messages that fit one by one may be too long together
(`openSocket_of_oversized_packing`).
-/

namespace SampleTap

variable {messages : List Bytes} {pieces pieces' : List (List Bytes)}

theorem Socket.opensAlike_packed {bufferSize : Nat} {peer : Socket}
    (hpadded : Message.AllPadded messages) (hpieces : pieces.flatten = messages)
    (hpieces' : pieces'.flatten = messages)
    (hfits : FitsBuffer (some (capacityOf bufferSize)) pieces)
    (hfits' : FitsBuffer (some (capacityOf bufferSize)) pieces') (later : List Arrival) :
    Connection.OpensAlike bufferSize { peer with queue := packed pieces later }
      { peer with queue := packed pieces' later } := by
  have hsame : pieces'.flatten = pieces.flatten := hpieces'.trans hpieces.symm
  have halike := repliesAlike_packed (hpieces ▸ hpadded) hsame hfits hfits' later 1
  let before : Socket := { peer with queue := packed pieces later }
  show Connection.OpensAlike bufferSize before { before with queue := packed pieces' later }
  exact RepliesAlike.opensAlike halike

namespace Session

theorem dumpsAlike_packed {s : Session} (hpadded : Message.AllPadded messages)
    (hpieces : pieces.flatten = messages) (hpieces' : pieces'.flatten = messages)
    (hfits : Socket.FitsBuffer s.control.socket.capacity pieces)
    (hfits' : Socket.FitsBuffer s.control.socket.capacity pieces') (later : List Arrival) :
    DumpsAlike (s.withReplies (Socket.packed pieces later))
      (s.withReplies (Socket.packed pieces' later)) := by
  have hsame : pieces'.flatten = pieces.flatten := hpieces'.trans hpieces.symm
  have halike := Socket.repliesAlike_packed (hpieces ▸ hpadded) hsame hfits hfits' later
    s.control.socket.nextSeq
  exact dumpsAlike_of_repliesAlike (s := s.withReplies (Socket.packed pieces later)) halike

/-- Two packings of the same messages into datagrams that fit the receive buffer come to the same,
whatever is received behind them. -/
theorem packing_changes_nothing (messages : List Bytes) (pieces pieces' : List (List Bytes))
    (later : List Arrival) (hpadded : Message.AllPadded messages)
    (hpieces : pieces.flatten = messages) (hpieces' : pieces'.flatten = messages) :
    (∀ s : Session, Socket.FitsBuffer s.control.socket.capacity pieces →
      Socket.FitsBuffer s.control.socket.capacity pieces' →
      DumpsAlike (s.withReplies (Socket.packed pieces later))
        (s.withReplies (Socket.packed pieces' later))) ∧
    (∀ (bufferSize : Nat) (peer : Socket),
      Socket.FitsBuffer (some (Socket.capacityOf bufferSize)) pieces →
      Socket.FitsBuffer (some (Socket.capacityOf bufferSize)) pieces' →
      Connection.OpensAlike bufferSize { peer with queue := Socket.packed pieces later }
        { peer with queue := Socket.packed pieces' later }) := by
  constructor
  · intro s hfits hfits'
    exact dumpsAlike_packed hpadded hpieces hpieces' hfits hfits' later
  · intro bufferSize peer hfits hfits'
    exact Socket.opensAlike_packed hpadded hpieces hpieces' hfits hfits' later

/-! ## Samples of packings -/

/-- A reply of two groups, message by message and with an empty datagram, and in one datagram with
its end. -/
theorem packing_changes_nothing_two_groups :
    let messages := [groupReply 1 5, groupReply 1 7, replyEnd 1]
    let pieces := [[groupReply 1 5], [], [groupReply 1 7], [replyEnd 1]]
    let s := withArrivals []
    Message.AllPadded messages ∧ pieces.flatten = messages ∧ [messages].flatten = messages ∧
      Socket.FitsBuffer (some 131072) pieces ∧ Socket.FitsBuffer (some 131072) [messages] ∧
      (groups (s.withReplies (Socket.packed [messages] []))).result = .ok [⟨5, 1, 0⟩, ⟨7, 1, 0⟩] ∧
      DumpsAlike (s.withReplies (Socket.packed pieces []))
        (s.withReplies (Socket.packed [messages] [])) ∧
      Connection.OpensAlike 131072 { queue := Socket.packed pieces [] }
        { queue := Socket.packed [messages] [] } := by
  intro messages pieces s
  have hpadded : Message.AllPadded messages := by
    simp only [Message.AllPadded, messages, List.forall_mem_cons]
    refine ⟨⟨_, MessageBuilder.padded_finish ?_ ?_⟩, ⟨_, MessageBuilder.padded_finish ?_ ?_⟩,
      ⟨_, MessageBuilder.padded_finish ?_ ?_⟩, by simp⟩
    all_goals decide +kernel
  have hpieces : pieces.flatten = messages := rfl
  have hwhole : [messages].flatten = messages := rfl
  have hfits : Socket.FitsBuffer (some 131072) pieces := by
    intro size hsize
    cases hsize
    decide +kernel
  have hfits' : Socket.FitsBuffer (some 131072) [messages] := by
    intro size hsize
    cases hsize
    decide +kernel
  obtain ⟨hdumps, hopens⟩ :=
    packing_changes_nothing messages pieces [messages] [] hpadded hpieces hwhole
  refine ⟨hpadded, hpieces, hwhole, hfits, hfits', by decide +kernel, ?_, ?_⟩
  · apply hdumps
    · intro size hsize
      cases hsize
    · intro size hsize
      cases hsize
  · exact hopens 131072 {} hfits hfits'

/-- A message of another request that fills the receive buffer, and a reply behind it. -/
theorem openSocket_of_oversized_packing :
    let long : Bytes := (⟨131072, 29, 0, 7, 0⟩ : Message.Header).encode ++ List.replicate 131056 0
    let messages := [long, familyReply, replyEnd 1]
    let pieces := [[long], [familyReply, replyEnd 1]]
    let opened (pieces : List (List Bytes)) :=
      (Connection.openSocket familyName familyVersion Socket.defaultCapacity
        { queue := Socket.packed pieces [] }).result.map Connection.family
    Message.AllPadded messages ∧ pieces.flatten = messages ∧ [messages].flatten = messages ∧
      opened pieces = .ok { id := 29 } ∧
      opened [messages] = .error (.truncated 131116 131072) := by
  intro long messages pieces opened
  have hlong : Message.Padded long ⟨⟨131072, 29, 0, 7, 0⟩, List.replicate 131056 0⟩ := by
    apply Message.padded_encode
    · rw [List.length_replicate]
      rfl
    · rw [List.length_replicate]
  have hreply : Message.Padded familyReply ⟨⟨28, 16, 0, 1, 0⟩, familyReply.drop 16⟩ :=
    Message.padded_encode (by decide +kernel) (by decide +kernel)
  have hend : Message.Padded (replyEnd 1) ⟨⟨16, 3, 0, 1, 0⟩, []⟩ :=
    Message.padded_encode (by decide) (by decide)
  have hlength : long.length = 131072 := hlong.length
  refine ⟨?_, rfl, rfl, ?_, ?_⟩
  · simp only [Message.AllPadded, messages, List.forall_mem_cons]
    exact ⟨⟨_, hlong⟩, ⟨_, hreply⟩, ⟨_, hend⟩, by simp⟩
  · let reply := [Arrival.datagram (familyReply ++ replyEnd 1)]
    have hfits : Socket.read (some (Socket.capacityOf Socket.defaultCapacity)) (.datagram long) =
        .ok long := by
      rw [Socket.read, hlength]
      rfl
    have hother : Message.Stale 1 ⟨⟨131072, 29, 0, 7, 0⟩, List.replicate 131056 0⟩ := by
      constructor <;> decide
    have hmixed : Socket.Mixed (Message.Stale 1) (some (Socket.capacityOf Socket.defaultCapacity))
        reply (.datagram long :: reply) :=
      .extra (.last hlong.step hother) hfits (.refl _ _ _)
    have halike : Connection.OpensAlike Socket.defaultCapacity { queue := reply }
        { queue := .datagram long :: reply } := hmixed.opensAlike
    have hpacked : Socket.packed pieces [] = .datagram long :: reply := by
      simp [Socket.packed, pieces, reply]
    show Except.map Connection.family (Connection.openSocket familyName familyVersion
      Socket.defaultCapacity { queue := Socket.packed pieces [] }).result = _
    rw [hpacked, halike familyName familyVersion]
    decide +kernel
  · let whole := long ++ (familyReply ++ replyEnd 1)
    have hlength' : whole.length = 131116 := by
      rw [List.length_append, hlength]
      rfl
    have hread : Socket.read (some (Socket.capacityOf Socket.defaultCapacity)) (.datagram whole) =
        .error (.truncated 131116 131072) := by
      rw [Socket.read, hlength']
      rfl
    have hpacked : Socket.packed [messages] [] = [.datagram whole] := by
      simp [Socket.packed, messages, whole]
    exact Connection.openSocket_of_read_error (fun _ _ => rfl) rfl hpacked hread familyName
      familyVersion

end Session
end SampleTap
