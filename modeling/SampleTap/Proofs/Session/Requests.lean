import SampleTap.Proofs.Action
import SampleTap.Proofs.Socket.Replies
import SampleTap.Session.Dispatch
import SampleTap.Session.Recording

/-!
# Requests of a session

The two requests that a session sends on its control connection: for the list of groups and for the
family's description. Either takes the next sequence number, is sent in one call, and leaves the
connection as it was but for the number and the count of calls (`requestGroups_eq`,
`requestDescription_eq`).

The reply to the first is read by `Socket.exchange` (`forEachGroup_eq`). The reply to the second is
recorded (`recordDescription_eq`), and recording takes one datagram after another (`record_cons`).
-/

namespace SampleTap

variable {σ β : Type}

/-! ## Sending -/

namespace Connection

/-- The connection when a sequence number was taken. -/
def numbered (c : Connection) : Connection :=
  { c with socket := { c.socket with nextSeq := c.socket.nextSeq + 1 } }

/-- The connection when a request was sent. -/
def requested (c : Connection) : Connection :=
  { c with socket := { c.socket with
      nextSeq := c.socket.nextSeq + 1, made := c.socket.made + 1 } }

/-- The request for the list of groups. -/
def listRequest (c : Connection) : MessageBuilder :=
  let start : MessageBuilder := {
    type := c.family.id, flags := Session.listFlags, seq := c.socket.nextSeq
    sender := c.socket.address }
  start.appendCommand { command := Command.getGroup.code, version := c.version }

/-- The request for the family's description. -/
def describeRequest (c : Connection) : MessageBuilder :=
  let start : MessageBuilder := {
    type := Controller.family, flags := Controller.flags, seq := c.socket.nextSeq
    sender := c.socket.address }
  (start.appendCommand { command := Controller.getFamily, version := Controller.version }).attrU16
    Family.idAttr c.family.id

/-- Sends a request for which a sequence number was taken. -/
def sendNumbered (request : MessageBuilder) : Act UInt32 := do
  onSocket (Socket.send request.finish)
  return request.seq

/-- A numbered request takes its number, be it sent or not. -/
theorem sendNumbered_eq (request : MessageBuilder) (c : Connection) :
    sendNumbered request c.numbered = ⟨c.requested, [.sent request.finish],
      (Socket.send request.finish c.socket).result.map fun _ => request.seq⟩ := by
  have hsend : onSocket (Socket.send request.finish) c.numbered =
      ⟨c.requested, [.sent request.finish], (Socket.send request.finish c.socket).result⟩ := by
    have hresult : (Socket.send request.finish c.numbered.socket).result =
        (Socket.send request.finish c.socket).result := Socket.result_send_congr ..
    rw [onSocket, Action.on, Socket.send_eq, hresult]
    rfl
  rw [sendNumbered]
  cases hsent : (Socket.send request.finish c.socket).result with
  | error e =>
    rw [hsent] at hsend
    rw [Action.bind_of_error hsend]
    rfl
  | ok _ =>
    rw [hsent] at hsend
    rw [Action.bind_of_ok hsend]
    rfl

end Connection

namespace Session

theorem requestGroups_eq (c : Connection) :
    requestGroups c = ⟨c.requested, [.sent c.listRequest.finish],
      (Socket.send c.listRequest.finish c.socket).result.map fun _ => c.socket.nextSeq⟩ := by
  have hprepare : Connection.prepareFamily Command.getGroup.code listFlags c =
      ⟨c.numbered, [], .ok c.listRequest⟩ := rfl
  rw [requestGroups, Action.bind_of_ok hprepare]
  exact congrArg (Ran.after []) (Connection.sendNumbered_eq c.listRequest c)

theorem requestDescription_eq (c : Connection) :
    requestDescription c = ⟨c.requested, [.sent c.describeRequest.finish],
      (Socket.send c.describeRequest.finish c.socket).result.map fun _ => c.socket.nextSeq⟩ :=
  congrArg (Ran.after []) (Connection.sendNumbered_eq c.describeRequest c)

/-- Listing the groups is a request and, if that is sent, an exchange with the visitor of the
groups. -/
theorem forEachGroup_eq (visit : Visitor GroupDescriptor σ β) (s : Session) (x : σ) :
    forEachGroup visit (s, x) =
      match (Socket.send s.control.listRequest.finish s.control.socket).result with
      | .error e =>
        ⟨({ s with control := s.control.requested }, x),
          [.call .control (.sent s.control.listRequest.finish)], .error e⟩
      | .ok () =>
        let ran := Socket.exchange s.control.socket.nextSeq (Error.during "dump psample groups")
          (groupVisitor visit).onMessage s.control.requested.socket x
        ⟨({ s with control := { s.control with socket := ran.state.1 } }, ran.state.2),
          .call .control (.sent s.control.listRequest.finish) :: ran.trace.map (.call .control),
          ran.result⟩ := by
  have hrequest : Action.on Prod.fst (fun cx c => (c, cx.2)) id requestGroups (s.control, x) =
      ⟨(s.control.requested, x), [.sent s.control.listRequest.finish],
        (Socket.send s.control.listRequest.finish s.control.socket).result.map
          fun _ => s.control.socket.nextSeq⟩ := by
    rw [Action.on, requestGroups_eq]
    rfl
  rw [forEachGroup, Action.on]
  cases hsent : (Socket.send s.control.listRequest.finish s.control.socket).result with
  | error e =>
    rw [hsent] at hrequest
    rw [Action.bind_of_error hrequest]
    rfl
  | ok _ =>
    rw [hsent] at hrequest
    rw [Action.bind_of_ok hrequest]
    simp [Action.on, Ran.after, Connection.requested]

theorem nextSeq_forEachGroup (visit : Visitor GroupDescriptor σ β) (s : Session) (x : σ) :
    (forEachGroup visit (s, x)).state.1.control.socket.nextSeq =
      s.control.socket.nextSeq + 1 := by
  rw [forEachGroup_eq]
  cases (Socket.send s.control.listRequest.finish s.control.socket).result with
  | error e => rfl
  | ok _ =>
    obtain ⟨ready, hstate, -⟩ := Socket.exchange_eq_replies s.control.socket.nextSeq
      (Error.during "dump psample groups") (groupVisitor visit).onMessage
      s.control.requested.socket x
    simp only [hstate]
    rfl

/-! ## Recording -/

/-- Recording the description is a request and, if that is sent, a recording of its reply. -/
theorem recordDescription_eq (s : Session) (capture : Capture) :
    recordDescription (s, capture) =
      match (Socket.send s.control.describeRequest.finish s.control.socket).result with
      | .error e =>
        ⟨({ s with control := s.control.requested }, capture),
          [.call .control (.sent s.control.describeRequest.finish)], .error e⟩
      | .ok () =>
        let ran := record .control (replyProceeds s.control.socket.nextSeq)
          s.control.requested.socket capture
        ⟨({ s with control := { s.control with socket := ran.state.1 } }, ran.state.2),
          .call .control (.sent s.control.describeRequest.finish) :: ran.trace, ran.result⟩ := by
  have hrequest : Action.on Prod.fst (fun sc s => (s, sc.2)) id (onControl requestDescription)
      (s, capture) =
      ⟨({ s with control := s.control.requested }, capture),
        [.call .control (.sent s.control.describeRequest.finish)],
        (Socket.send s.control.describeRequest.finish s.control.socket).result.map
          fun _ => s.control.socket.nextSeq⟩ := by
    simp only [Action.on, onControl, requestDescription_eq]
    rfl
  rw [recordDescription]
  cases hsent : (Socket.send s.control.describeRequest.finish s.control.socket).result with
  | error e =>
    rw [hsent] at hrequest
    rw [Action.bind_of_error hrequest]
  | ok _ =>
    rw [hsent] at hrequest
    rw [Action.bind_of_ok hrequest]
    simp [Action.on, Ran.after, Connection.requested]

/-- Recording from an empty queue blocks. -/
theorem record_nil (side : Side) (proceeds : Bytes → Except Error Bool) {socket : Socket}
    (h : socket.queue = []) (capture : Capture) :
    record side proceeds socket capture =
      ⟨({ socket with ready := false }, capture), [.call side .received],
        .error (.os Errno.wouldBlock)⟩ := by
  rw [record]
  split
  · rename_i e hreceived
    rw [Socket.receive_nil h] at hreceived ⊢
    rw [← Except.error.inj hreceived]
    rfl
  · rename_i data hreceived
    simp [Socket.receive_nil h] at hreceived

/-- Recording receives one datagram and may write its frame, and then it is over or goes on. -/
theorem record_cons (side : Side) (proceeds : Bytes → Except Error Bool) {socket : Socket}
    {arrival : Arrival} {rest : List Arrival} (h : socket.queue = arrival :: rest)
    (capture : Capture) :
    record side proceeds socket capture =
      let unread := Socket.afterReceive socket arrival rest
      match Socket.read socket.capacity arrival with
      | .error e => ⟨(unread, capture), [.call side .received], .error e⟩
      | .ok data =>
        if data.isEmpty then ⟨(unread, capture), [.call side .received], .ok ()⟩
        else
          let written := capture.write data
          let trace := .call side .received :: written.trace.map Effect.sink
          match written.result with
          | .error e => ⟨(unread, written.state), trace, .error e⟩
          | .ok () =>
            match proceeds data with
            | .error e => ⟨(unread, written.state), trace, .error e⟩
            | .ok false => ⟨(unread, written.state), trace, .ok ()⟩
            | .ok true => (record side proceeds unread written.state).after trace := by
  rw [record]
  split
  · rename_i e hreceived
    rw [Socket.receive_cons h] at hreceived ⊢
    simp only at hreceived
    simp only [hreceived, List.map_cons, List.map_nil]
  · rename_i data hreceived
    simp only [Socket.receive_cons h] at hreceived ⊢
    by_cases hempty : data.isEmpty
    · simp [hreceived, hempty]
    · cases hwritten : (capture.write data).result with
      | error e => simp [hreceived, hempty, hwritten]
      | ok _ =>
        rcases hproceeds : proceeds data with e | _ | _
        · simp [hreceived, hempty, hwritten, hproceeds]
        · simp [hreceived, hempty, hwritten, hproceeds]
        · simp [hreceived, hempty, hwritten, hproceeds]

/-- Recording receives on one side and writes. It changes only the queue and the readiness of its
socket. -/
theorem record_frame (side : Side) (proceeds : Bytes → Except Error Bool) (socket : Socket)
    (capture : Capture) :
    (∃ queue ready, (record side proceeds socket capture).state.1 =
        { socket with queue, ready }) ∧
      ∀ effect ∈ (record side proceeds socket capture).trace,
        effect = .call side .received ∨ ∃ call, effect = .sink call := by
  generalize hqueue : socket.queue = queue
  induction queue generalizing socket capture with
  | nil =>
    rw [record_nil side proceeds hqueue]
    exact ⟨⟨socket.queue, false, rfl⟩, by simp⟩
  | cons arrival rest ih =>
    rw [record_cons side proceeds hqueue]
    have hwrites (calls : List SinkCall) :
        ∀ effect ∈ .call side .received :: calls.map Effect.sink,
          effect = .call side .received ∨ ∃ call, effect = .sink call := by
      intro effect heffect
      rcases List.mem_cons.mp heffect with hreceived | hwritten
      · exact Or.inl hreceived
      · obtain ⟨call, -, rfl⟩ := List.mem_map.mp hwritten
        exact Or.inr ⟨call, rfl⟩
    cases Socket.read socket.capacity arrival with
    | error e => exact ⟨⟨rest, _, rfl⟩, hwrites []⟩
    | ok data =>
      by_cases hempty : data.isEmpty
      · simp only [hempty, if_true]
        exact ⟨⟨rest, _, rfl⟩, hwrites []⟩
      · simp only [hempty, Bool.false_eq_true, if_false]
        rcases (capture.write data).result with e | _
        · exact ⟨⟨rest, _, rfl⟩, hwrites _⟩
        · rcases proceeds data with e | _ | _
          · exact ⟨⟨rest, _, rfl⟩, hwrites _⟩
          · exact ⟨⟨rest, _, rfl⟩, hwrites _⟩
          · obtain ⟨⟨queue, ready, hstate⟩, hlater⟩ :=
              ih (Socket.afterReceive socket arrival rest) (capture.write data).state rfl
            refine ⟨⟨queue, ready, hstate⟩, fun effect heffect => ?_⟩
            exact (List.mem_append.mp heffect).elim (hwrites _ effect) (hlater effect)

end Session
end SampleTap
