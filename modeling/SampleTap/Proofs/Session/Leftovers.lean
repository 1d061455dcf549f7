import Mathlib.Algebra.Ring.Nat
import Mathlib.Control.Monad.Basic
import SampleTap.Proofs.Session.Bookkeeping
import SampleTap.Proofs.Session.Replies
import SampleTap.Proofs.Socket.Leftovers

/-!
# Requests among left-over replies

A request that was not read to its end leaves messages on its connection. They change nothing about
a later request: neither what a visitor of groups is shown nor what comes of it, and neither does
opening a connection see them (`leftovers_change_nothing`). The sequence numbers tell the messages
apart, for as long as the counter does not come round (`nextSeq_afterAll`).

What is added has to fit the receive buffer: a datagram that does not is an error of the request
that receives it, whoever it was for (`openSocket_of_oversized_leftover`).
-/

namespace SampleTap

variable {σ β : Type}

/-! ## Queues with left-overs -/

/-- The request that opening sends is the first of its socket. -/
theorem Socket.Mixed.opensAlike {bufferSize : Nat} {peer : Socket} {queue : List Arrival}
    (h : Mixed (Message.Stale 1) (some (capacityOf bufferSize)) peer.queue queue) :
    Connection.OpensAlike bufferSize peer { peer with queue } :=
  h.repliesAlike.opensAlike

namespace Session

theorem dumpsAlike_withReplies {s : Session} {queue : List Arrival}
    (h : Socket.Mixed (Message.Stale s.control.socket.nextSeq) s.control.socket.capacity
      s.control.socket.queue queue) : DumpsAlike s (s.withReplies queue) :=
  dumpsAlike_of_repliesAlike h.repliesAlike

/-! ## Sequence numbers -/

/-- The number of requests that are sent in a run. -/
def requestsIn : List Task → Session → Nat
  | [], _ => 0
  | task :: rest, s =>
    (task.run s).trace.countP Effect.isRequest + requestsIn rest (task.run s).state

/-- A binding sends nothing. -/
theorem bindGroup_quiet (g : UInt32) (s : Session) :
    (bindGroup g s).state.control = s.control ∧
      ∀ effect ∈ (bindGroup g s).trace, effect.isRequest = false := by
  have hdetach : (detachGroup s).state.control = s.control ∧
      ∀ effect ∈ (detachGroup s).trace, effect.isRequest = false := by
    cases hfilter : s.filter with
    | none =>
      rw [detachGroup_of_none hfilter]
      exact ⟨rfl, by simp⟩
    | some f =>
      rw [detachGroup_of_some hfilter]
      cases (Socket.detach s.event.socket).result with
      | error e => exact ⟨rfl, by simp [Effect.isRequest]⟩
      | ok _ => exact ⟨rfl, by simp [Effect.isRequest]⟩
  have hattach (s : Session) : (attachGroup g s).state.control = s.control ∧
      ∀ effect ∈ (attachGroup g s).trace, effect.isRequest = false := by
    rw [attachGroup_eq]
    cases (Socket.attach (GroupFilter.mk g).program s.event.socket).result with
    | error e => exact ⟨rfl, by simp [Effect.isRequest]⟩
    | ok _ => exact ⟨rfl, by simp [Effect.isRequest]⟩
  rcases hresult : (detachGroup s).result with e | _
  · rw [bindGroup_of_detachGroup_error hresult g]
    exact hdetach
  · rw [bindGroup_of_detachGroup_ok hresult g]
    obtain ⟨hcontrol, htrace⟩ := hattach (detachGroup s).state
    refine ⟨hcontrol.trans hdetach.1, fun effect heffect => ?_⟩
    exact (List.mem_append.mp heffect).elim (hdetach.2 effect) (htrace effect)

/-- The sequence numbers that a task takes are those of the requests that it sends. -/
theorem nextSeq_run (task : Task) (s : Session) :
    (task.run s).state.control.socket.nextSeq = s.control.socket.nextSeq +
      UInt32.ofNat ((task.run s).trace.countP Effect.isRequest) := by
  have hquiet (hcontrol : (task.run s).state.control = s.control)
      (htrace : ∀ effect ∈ (task.run s).trace, effect.isRequest = false) :
      (task.run s).state.control.socket.nextSeq = s.control.socket.nextSeq +
        UInt32.ofNat ((task.run s).trace.countP Effect.isRequest) := by
    rw [hcontrol, Effect.countP_isRequest_eq_zero htrace]
    exact (UInt32.add_zero _).symm
  rcases task.kind s with ⟨group, rfl⟩ | hlistened | hasked
  · obtain ⟨hcontrol, htrace⟩ := bindGroup_quiet group s
    exact hquiet hcontrol htrace
  · apply hquiet hlistened.control
    intro effect heffect
    exact (Effect.quiet_of_ofListening (hlistened.effects effect heffect)).1
  · exact hasked.seq

theorem nextSeq_afterAll (tasks : List Task) (s : Session) :
    (afterAll tasks s).control.socket.nextSeq =
      s.control.socket.nextSeq + UInt32.ofNat (requestsIn tasks s) := by
  induction tasks generalizing s with
  | nil => exact (UInt32.add_zero _).symm
  | cons task rest ih =>
    rw [afterAll, ih, nextSeq_run, requestsIn, UInt32.ofNat_add, UInt32.add_assoc]

/-- A number that was used comes round only after as many requests as there are numbers. -/
theorem nextSeq_ne_of_requestsIn {s s' : Session} {tasks : List Task}
    (htaken : s'.control.socket.nextSeq = s.control.socket.nextSeq + 1)
    (hfew : requestsIn tasks s' + 1 < 2 ^ 32) :
    (afterAll tasks s').control.socket.nextSeq ≠ s.control.socket.nextSeq := by
  rw [nextSeq_afterAll, htaken]
  intro hround
  have hnat := congrArg UInt32.toNat hround
  have hlt := s.control.socket.nextSeq.toNat_lt
  rw [UInt32.toNat_add, UInt32.toNat_add, UInt32.toNat_ofNat', UInt32.toNat_one] at hnat
  omega

/-! ## Left-overs -/

/-- Messages of other requests change nothing about a request. The conditions are those under which
a message is one of another request:

* a dump looks for its own sequence number, the next of the control connection;
* opening a connection looks for the number 1, which is the first of every socket;
* after a dump, however it ended, the messages that it left behind carry its number, which is no
  other request's unless the counter came round. -/
theorem leftovers_change_nothing :
    (∀ (s : Session) (queue : List Arrival),
      Socket.Mixed (Message.Stale s.control.socket.nextSeq) s.control.socket.capacity
        s.control.socket.queue queue →
      DumpsAlike s (s.withReplies queue)) ∧
    (∀ (bufferSize : Nat) (peer : Socket) (queue : List Arrival),
      Socket.Mixed (Message.Stale 1) (some (Socket.capacityOf bufferSize)) peer.queue queue →
      Connection.OpensAlike bufferSize peer { peer with queue }) ∧
    (∀ {σ β : Type} (s : Session) (visit : Visitor GroupDescriptor σ β) (x : σ) (tasks : List Task)
        (clean : List Arrival),
      let dumped := (forEachGroup visit (s, x)).state.1
      let later := afterAll tasks dumped
      s.control.socket.nextSeq ≠ 0 → requestsIn tasks dumped + 1 < 2 ^ 32 →
      Socket.Mixed (fun m => m.header.seq = s.control.socket.nextSeq) later.control.socket.capacity
        clean later.control.socket.queue →
      DumpsAlike (later.withReplies clean) later) := by
  refine ⟨fun s queue h => dumpsAlike_withReplies h, fun size peer queue h => h.opensAlike, ?_⟩
  intro σ β s visit x tasks clean dumped later hnonzero hfew hmixed
  have hother := nextSeq_ne_of_requestsIn (nextSeq_forEachGroup visit s x) hfew
  have hstale : Socket.Mixed (Message.Stale later.control.socket.nextSeq)
      later.control.socket.capacity clean later.control.socket.queue :=
    hmixed.mono fun m hm => ⟨by rw [hm]; exact hnonzero, by rw [hm]; exact hother.symm⟩
  exact dumpsAlike_withReplies (s := later.withReplies clean) hstale

/-! ## Samples of replies -/

/-- A datagram of a reply to the request numbered `seq` that tells a group. -/
def groupReply (seq group : UInt32) : Bytes :=
  let start : MessageBuilder := { type := 29, flags := 0, seq }
  let command : CommandHeader := { command := Command.newGroup.code, version := familyVersion }
  ((((start.appendCommand command).attrU32 3 group).attrU32 4 0).attrU32 7 1).finish

/-- The end of a reply to the request numbered `seq`. -/
def replyEnd (seq : UInt32) : Bytes :=
  ({ type := Message.doneType, flags := 0, seq } : MessageBuilder).finish

/-- The controller's description of a family numbered 29, to the request numbered 1. -/
def familyReply : Bytes :=
  let start : MessageBuilder := { type := Controller.family, flags := 0, seq := 1 }
  ((start.appendCommand { command := 1, version := 2 }).attrU16 Family.idAttr 29).finish

/-- A dump that its visitor breaks off leaves the end of its reply behind, and another part of it
arrives together with the reply to the next dump. -/
theorem leftovers_change_nothing_cut_dump :
    let cut : Visitor GroupDescriptor Unit Unit := fun x _ => (x, .stop ())
    let s := (withArrivals []).withReplies [.datagram (groupReply 1 5), .datagram (replyEnd 1)]
    let dumped := (forEachGroup cut (s, ())).state.1
    let tasks : List Task :=
      [.arrive .control [.datagram (groupReply 1 7 ++ groupReply 2 6), .datagram (replyEnd 2)]]
    let later := afterAll tasks dumped
    let peer : Socket := { queue := [.datagram familyReply, .datagram (replyEnd 1)] }
    let queue := [.datagram (replyEnd 3), .datagram familyReply, .datagram (replyEnd 1)]
    (forEachGroup cut (s, ())).result = .ok (.stop ()) ∧
      (groups later).result = .ok [⟨6, 1, 0⟩] ∧
      DumpsAlike (later.withReplies [.datagram (groupReply 2 6), .datagram (replyEnd 2)]) later ∧
      DumpsAlike s (s.withReplies (.datagram (replyEnd 3) :: s.control.socket.queue)) ∧
      Connection.OpensAlike 64 peer { peer with queue } := by
  intro cut s dumped tasks later peer queue
  obtain ⟨hdump, hopen, hrun⟩ := leftovers_change_nothing
  have hend (seq : UInt32) : Message.step (replyEnd seq) =
      .found ⟨⟨16, Message.doneType, 0, seq, 0⟩, []⟩ [] := Message.step_encode rfl
  have hgroup : Message.Padded (groupReply 1 7)
      ⟨⟨44, 29, 0, 1, 0⟩, (groupReply 1 7).drop 16⟩ :=
    Message.padded_encode (by decide +kernel) (by decide +kernel)
  have hother : Message.Stale 1 ⟨⟨16, Message.doneType, 0, 3, 0⟩, []⟩ := by
    constructor <;> decide
  refine ⟨by decide +kernel, by decide +kernel, ?_, ?_, ?_⟩
  · refine hrun s cut () tasks _ (by decide) (by decide +kernel) ?_
    have hqueue : later.control.socket.queue = [.datagram (replyEnd 1),
        .datagram (groupReply 1 7 ++ groupReply 2 6), .datagram (replyEnd 2)] := by
      decide +kernel
    have hcapacity : later.control.socket.capacity = none := by decide +kernel
    rw [hqueue, hcapacity]
    exact .extra (.last (hend 1) rfl) rfl (.inside (.add hgroup rfl (.rest _)) rfl (.refl _ _ _))
  · exact hdump s _ (.extra (.last (hend 3) hother) rfl (.refl _ _ _))
  · exact hopen 64 peer queue (.extra (.last (hend 3) hother) rfl (.refl _ _ _))

/-- A message of another request that does not fit the receive buffer, in front of a reply. -/
theorem openSocket_of_oversized_leftover :
    let long : Bytes := (⟨131088, 29, 0, 7, 0⟩ : Message.Header).encode ++ List.replicate 131072 0
    let peer : Socket := { queue := [.datagram familyReply, .datagram (replyEnd 1)] }
    let queue := .datagram long :: peer.queue
    let opened (peer : Socket) :=
      (Connection.openSocket familyName familyVersion Socket.defaultCapacity peer).result
    Socket.Mixed (Message.Stale 1) none peer.queue queue ∧
      (opened peer).map Connection.family = .ok { id := 29 } ∧
      (opened { peer with queue }).map Connection.family = .error (.truncated 131088 131072) := by
  intro long peer queue opened
  have hlength : long.length = 131088 := by
    rw [List.length_append, Message.Header.length_encode, List.length_replicate]
    rfl
  refine ⟨?_, by decide +kernel, ?_⟩
  · refine .extra (.last (Message.step_encode ?_) ⟨by decide, by decide⟩) rfl (.refl _ _ _)
    rw [List.length_replicate]
    rfl
  · have hlong : Socket.read (some (Socket.capacityOf Socket.defaultCapacity)) (.datagram long) =
        .error (.truncated 131088 131072) := by
      rw [Socket.read, hlength]
      rfl
    exact Connection.openSocket_of_read_error (fun _ _ => rfl) rfl rfl hlong familyName
      familyVersion

end Session
end SampleTap
