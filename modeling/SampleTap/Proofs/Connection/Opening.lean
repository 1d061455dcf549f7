import SampleTap.Connection.Opening
import SampleTap.Proofs.Action
import SampleTap.Proofs.Socket.Replies

/-!
# What comes of opening a connection

A socket is created when none of three calls fails (`result_create`), and the family is what the
reply to the request for it tells (`result_resolve`). The arrivals of the peer count through that
reply only.
-/

namespace SampleTap
namespace Socket

/-- A socket is made by three calls, of which the first that fails gives the error. -/
theorem result_create (bufferSize : Nat) (peer : Socket) :
    (create bufferSize peer).result =
      match peer.faults peer.made .create, peer.faults (peer.made + 1) .bindAddress,
        peer.faults (peer.made + 2) .readAddress with
      | some errno, _, _ => .error (.os errno)
      | none, some errno, _ => .error (.os errno)
      | none, none, some errno => .error (.os errno)
      | none, none, none => .ok { fresh bufferSize peer with made := peer.made + 3 } := by
  cases hcreate : peer.faults peer.made .create with
  | some errno => simp [create, call, fresh, hcreate]
  | none =>
    cases hbind : peer.faults (peer.made + 1) .bindAddress with
    | some errno =>
      simp [create, call, fresh, hcreate, takeAddress, hbind, bind, Action.bind, pure, Action.pure,
        Ran.after]
    | none =>
      cases hread : peer.faults (peer.made + 2) .readAddress <;>
        simp [create, call, fresh, hcreate, takeAddress, hbind, hread, bind, Action.bind, pure,
          Action.pure, Ran.after]

theorem create_ok {bufferSize : Nat} {peer s : Socket}
    (h : (create bufferSize peer).result = .ok s) :
    s = { fresh bufferSize peer with made := peer.made + 3 } := by
  rw [result_create] at h
  split at h
  · simp at h
  · simp at h
  · simp at h
  · exact (Except.ok.inj h).symm

/-- Creating a socket does not look at what it will receive. -/
theorem result_create_congr (bufferSize : Nat) (peer : Socket) (queue : List Arrival) :
    (create bufferSize { peer with queue }).result =
      (create bufferSize peer).result.map fun s => { s with queue } := by
  rw [result_create, result_create]
  dsimp only
  split <;> rfl

/-- What the reply to a request for the family named `name` told. -/
def resolved (name : String) (reply : Outcome (Option Family) Empty) : Except Error Family :=
  match reply.result, reply.state with
  | .error e, _ => .error e
  | .ok _, some family => .ok family
  | .ok _, none => .error (.familyNotFound name)

/-- Reads the reply to a request for the family named `name`. -/
def awaitFamily (name : String) (seq : UInt32) : Act Family := fun s =>
  let ran := exchange seq (Controller.explain name)
    (Controller.keepFamily.onType Controller.family) s none
  ⟨ran.state.1, ran.trace,
    match ran.result, ran.state.2 with
    | .error e, _ => .error e
    | .ok _, some family => .ok family
    | .ok _, none => .error (.familyNotFound name)⟩

theorem resolve_eq (name : String) :
    resolve name = takeSeq >>= fun seq => Action.get >>= fun s =>
      send (Controller.request name seq s.address).finish >>= fun _ => awaitFamily name seq := rfl

theorem result_awaitFamily (name : String) (seq : UInt32) (s : Socket) :
    (awaitFamily name seq s).result = resolved name (replies seq (Controller.explain name)
      (Controller.keepFamily.onType Controller.family) s.capacity none s.queue) := by
  obtain ⟨ready, hstate, hresult⟩ := exchange_eq_replies seq (Controller.explain name)
    (Controller.keepFamily.onType Controller.family) s none
  simp only [awaitFamily, hstate, hresult, resolved]

/-- A family is resolved by one request and its reply. -/
theorem resolve_eq_awaitFamily (name : String) (s : Socket) :
    let request := (Controller.request name s.nextSeq s.address).finish
    let asked : Socket := { s with nextSeq := s.nextSeq + 1, made := s.made + 1 }
    resolve name s =
      match (send request s).result with
      | .error e => ⟨asked, [.sent request], .error e⟩
      | .ok () => (awaitFamily name s.nextSeq asked).after [.sent request] := by
  intro request asked
  let numbered : Socket := { s with nextSeq := s.nextSeq + 1 }
  have htake : takeSeq s = ⟨numbered, [], .ok s.nextSeq⟩ := rfl
  have hget : (Action.get : Act Socket) numbered = ⟨numbered, [], .ok numbered⟩ := rfl
  have hsend : send request numbered = ⟨asked, [.sent request], (send request s).result⟩ := by
    rw [send_eq, result_send_congr request s s.queue s.ready (s.nextSeq + 1)]
  rw [resolve_eq, Action.bind_of_ok htake, Action.bind_of_ok hget]
  cases hsent : (send request s).result with
  | error e =>
    rw [hsent] at hsend
    rw [Action.bind_of_error hsend]
    rfl
  | ok _ =>
    rw [hsent] at hsend
    rw [Action.bind_of_ok hsend]
    rfl

/-- A name is resolved by the replies in the queue, if the request can be sent. -/
theorem result_resolve (name : String) (s : Socket) :
    (resolve name s).result =
      match (send (Controller.request name s.nextSeq s.address).finish s).result with
      | .error e => .error e
      | .ok () => resolved name (replies s.nextSeq (Controller.explain name)
          (Controller.keepFamily.onType Controller.family) s.capacity none s.queue) := by
  rw [resolve_eq_awaitFamily]
  cases (send (Controller.request name s.nextSeq s.address).finish s).result with
  | error e => rfl
  | ok _ => exact result_awaitFamily name s.nextSeq _

/-- Resolving a family leaves alone what a socket's peer will refuse. -/
theorem faults_resolve (name : String) (s : Socket) :
    (resolve name s).state.faults = s.faults := by
  rw [resolve_eq_awaitFamily]
  cases (send (Controller.request name s.nextSeq s.address).finish s).result with
  | error e => rfl
  | ok _ =>
    obtain ⟨ready, hstate, -⟩ := exchange_eq_replies s.nextSeq (Controller.explain name)
      (Controller.keepFamily.onType Controller.family)
      { s with nextSeq := s.nextSeq + 1, made := s.made + 1 } none
    simp only [Ran.after, awaitFamily, hstate]

end Socket

namespace Connection

/-- A connection speaks for the family that its socket resolved. -/
theorem family_openSocket (name : String) (version : UInt8) (bufferSize : Nat) (peer : Socket) :
    (openSocket name version bufferSize peer).result.map family =
      match (Socket.create bufferSize peer).result with
      | .error e => .error e
      | .ok socket => (Socket.resolve name socket).result := by
  cases hcreate : (Socket.create bufferSize peer).result with
  | error e => simp [openSocket, hcreate, Except.map]
  | ok socket =>
    cases hresolve : (Socket.resolve name socket).result with
    | error e => simp [openSocket, hcreate, hresolve, Except.map]
    | ok family => simp [openSocket, hcreate, hresolve, Except.map]

/-- A connection that was opened is refused what its peer was going to refuse. -/
theorem faults_of_openSocket_ok {name : String} {version : UInt8} {bufferSize : Nat}
    {peer : Socket} {c : Connection}
    (h : (openSocket name version bufferSize peer).result = .ok c) :
    c.socket.faults = peer.faults := by
  unfold openSocket at h
  cases hcreate : (Socket.create bufferSize peer).result with
  | error e => simp [hcreate] at h
  | ok socket =>
    cases hresolve : (Socket.resolve name socket).result with
    | error e => simp [hcreate, hresolve] at h
    | ok family =>
      simp only [hcreate, hresolve, Except.ok.injEq] at h
      obtain rfl := Socket.create_ok hcreate
      rw [← h]
      exact Socket.faults_resolve name _

/-- An arrival that cannot be received ends the wait for the reply, whoever it was for. -/
theorem openSocket_of_read_error {peer : Socket} {bufferSize : Nat} {arrival : Arrival}
    {rest : List Arrival} {e : Error} (hfaults : ∀ n op, peer.faults n op = none)
    (hshort : peer.shortSend = none) (hqueue : peer.queue = arrival :: rest)
    (hread : Socket.read (some (Socket.capacityOf bufferSize)) arrival = .error e) (name : String)
    (version : UInt8) :
    (openSocket name version bufferSize peer).result.map family = .error e := by
  have hsend (data : Bytes) : (Socket.send data
      { Socket.fresh bufferSize peer with made := peer.made + 3 }).result = .ok () := by
    simp [Socket.send, Socket.call, Socket.fresh, hfaults, hshort, Ran.after]
  have hreply : Socket.replies 1 (Controller.explain name)
      (Controller.keepFamily.onType Controller.family) (some (Socket.capacityOf bufferSize)) none
      (arrival :: rest) = ⟨none, rest, .error e⟩ := by
    simp only [Socket.replies, Socket.answer, hread]
  rw [family_openSocket, Socket.result_create]
  simp only [hfaults, Socket.result_resolve, hsend]
  show Socket.resolved name (Socket.replies 1 _ _ (some (Socket.capacityOf bufferSize)) none
    peer.queue) = _
  rw [hqueue, hreply]
  rfl

end Connection
end SampleTap
