import SampleTap.Proofs.Connection.Opening
import SampleTap.Proofs.Session.Requests

/-!
# Requests whose replies come to the same

A request is decided by the arrivals that its reply is read from. Two queues that come to the same
for the request (`Socket.RepliesAlike`) make opening a connection come to the same
(`RepliesAlike.opensAlike`), and so they do for asking for the groups
(`dumpsAlike_of_repliesAlike`).
-/

namespace SampleTap

variable {σ β : Type}

/-! ## Opening -/

/-- Whether opening a connection over two sockets comes to the same. -/
def Connection.OpensAlike (bufferSize : Nat) (peer peer' : Socket) : Prop :=
  ∀ name version,
    (openSocket name version bufferSize peer').result.map Connection.family =
      (openSocket name version bufferSize peer).result.map Connection.family

theorem Socket.RepliesAlike.resolve {s : Socket} {queue : List Arrival}
    (h : RepliesAlike s.nextSeq s.capacity s.queue queue) (name : String) :
    (Socket.resolve name { s with queue }).result = (Socket.resolve name s).result := by
  have hsend : (send (Controller.request name s.nextSeq s.address).finish { s with queue }).result =
      (send (Controller.request name s.nextSeq s.address).finish s).result :=
    result_send_congr _ s queue s.ready s.nextSeq
  rw [result_resolve, result_resolve]
  simp only [hsend, resolved, h.visited, h.result]

/-- The request that opening sends is the first of its socket. -/
theorem Socket.RepliesAlike.opensAlike {bufferSize : Nat} {peer : Socket} {queue : List Arrival}
    (h : RepliesAlike 1 (some (capacityOf bufferSize)) peer.queue queue) :
    Connection.OpensAlike bufferSize peer { peer with queue } := by
  intro name version
  rw [Connection.family_openSocket, Connection.family_openSocket, result_create_congr]
  cases hcreate : (create bufferSize peer).result with
  | error e => rfl
  | ok s =>
    rw [create_ok hcreate]
    exact RepliesAlike.resolve (s := { fresh bufferSize peer with made := peer.made + 3 }) h name

namespace Session

/-! ## Dumps -/

/-- The session with other arrivals on its control connection. -/
def withReplies (s : Session) (queue : List Arrival) : Session :=
  { s with control := { s.control with socket := { s.control.socket with queue } } }

/-- Whether asking for the groups comes to the same in two sessions. What a visitor was shown, and
in which order, is in its state. -/
structure DumpsAlike (s s' : Session) : Prop where
  visited : ∀ {σ β : Type} (visit : Visitor GroupDescriptor σ β) (x : σ),
    (forEachGroup visit (s', x)).state.2 = (forEachGroup visit (s, x)).state.2
  result : ∀ {σ β : Type} (visit : Visitor GroupDescriptor σ β) (x : σ),
    (forEachGroup visit (s', x)).result = (forEachGroup visit (s, x)).result
  groups : (groups s').result = (groups s).result

/-- Listing the groups comes to the same over queues whose replies are alike. -/
theorem forEachGroup_withReplies {s : Session} {queue : List Arrival}
    (h : Socket.RepliesAlike s.control.socket.nextSeq s.control.socket.capacity
      s.control.socket.queue queue) (visit : Visitor GroupDescriptor σ β) (x : σ) :
    (forEachGroup visit (s.withReplies queue, x)).state.2 = (forEachGroup visit (s, x)).state.2 ∧
      (forEachGroup visit (s.withReplies queue, x)).result =
        (forEachGroup visit (s, x)).result := by
  have hsend : (Socket.send (s.withReplies queue).control.listRequest.finish
      (s.withReplies queue).control.socket).result =
      (Socket.send s.control.listRequest.finish s.control.socket).result :=
    Socket.result_send_congr _ s.control.socket queue s.control.socket.ready _
  rw [forEachGroup_eq, forEachGroup_eq, hsend]
  cases (Socket.send s.control.listRequest.finish s.control.socket).result with
  | error e => exact ⟨rfl, rfl⟩
  | ok _ =>
    obtain ⟨_, hstate, hresult⟩ := Socket.exchange_eq_replies s.control.socket.nextSeq
      (Error.during "dump psample groups") (groupVisitor visit).onMessage
      s.control.requested.socket x
    obtain ⟨_, hstate', hresult'⟩ := Socket.exchange_eq_replies s.control.socket.nextSeq
      (Error.during "dump psample groups") (groupVisitor visit).onMessage
      (s.withReplies queue).control.requested.socket x
    have hvisited := h.visited (Error.during "dump psample groups") (groupVisitor visit).onMessage x
    have hended := h.result (Error.during "dump psample groups") (groupVisitor visit).onMessage x
    constructor
    · calc _ = _ := congrArg Prod.snd hstate'
        _ = _ := hvisited
        _ = _ := (congrArg Prod.snd hstate).symm
    · calc _ = _ := hresult'
        _ = _ := hended
        _ = _ := hresult.symm

theorem dumpsAlike_of_repliesAlike {s : Session} {queue : List Arrival}
    (h : Socket.RepliesAlike s.control.socket.nextSeq s.control.socket.capacity
      s.control.socket.queue queue) : DumpsAlike s (s.withReplies queue) where
  visited visit x := (forEachGroup_withReplies h visit x).1
  result visit x := (forEachGroup_withReplies h visit x).2
  groups := by
    unfold Session.groups
    dsimp only
    rw [(forEachGroup_withReplies h _ _).1, (forEachGroup_withReplies h _ _).2]

end Session
end SampleTap
