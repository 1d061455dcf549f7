import SampleTap.Session.Dispatch

/-!
# Streams

A stream gives the events of a session one at a time without waiting. It acts on readiness: only
when the event socket has been reported readable since the last look does it receive, and then
everything there is at once. The events that a look finds wait in the stream; an error is reported
before them.

`Socket.backlog` is what keeps a stream going: a look takes away from it
(`backlog_pump_le`), so that `Stream.next` comes to an end.
-/

namespace SampleTap

/-! ## What a socket still has to give -/

namespace Socket

/-- The arrivals in the queue, and one more when the socket is ready. -/
def backlog (s : Socket) : Nat := s.queue.length + s.ready.toNat

theorem backlog_receive_le (s : Socket) : (receive s).state.backlog ≤ s.backlog := by
  unfold receive
  split
  · simp [backlog]
  · rename_i arrival rest h
    simp only [backlog, h, List.length_cons]
    have (b : Bool) : b.toNat ≤ 1 := Bool.toNat_le b
    have := this (decide (arrival = .pause) || s.ready && !rest.isEmpty)
    omega

theorem backlog_setMode_le (mode : Mode) (s : Socket) :
    (setMode mode s).state.backlog ≤ s.backlog := by
  unfold setMode call
  split
  · exact Nat.le_refl _
  · exact Nat.le_refl _

variable {σ β : Type}

theorem state_turn (type : UInt16) (mode : Mode) (visit : CommandVisitor σ β) (s : Socket) (x : σ) :
    (turn type mode visit (s, x)).state.1 = (receive s).state := by
  simp only [turn]
  split
  · rfl
  · split
    · rfl
    · split <;> rfl

theorem backlog_drain_le (type : UInt16) (visit : CommandVisitor σ β) (s : Socket) (x : σ) :
    (drain type visit s x).state.1.backlog ≤ s.backlog := by
  have hturn (s : Socket) (x : σ) :
      (turn type .nonBlocking visit (s, x)).state.1.backlog ≤ s.backlog := by
    rw [state_turn]
    exact backlog_receive_le s
  fun_induction drain type visit s x with
  | case1 s x => exact hturn s x
  | case2 s x => exact hturn s x
  | case3 s x _ _ _ ih => exact Nat.le_trans ih (hturn s x)

/-- A look at every datagram leaves no more to give than there was. -/
theorem backlog_pump_le (type : UInt16) (visit : CommandVisitor σ β) (s : Socket) (x : σ) :
    (pump type .nonBlocking visit (s, x)).state.1.backlog ≤ s.backlog := by
  have hmode := backlog_setMode_le .nonBlocking s
  show (Action.bind _ _ (s, x)).state.1.backlog ≤ s.backlog
  unfold Action.bind Action.on
  dsimp only
  split
  · exact Nat.le_trans (backlog_drain_le ..) hmode
  · exact hmode

end Socket

/-! ## Streams -/

/-- A session whose events are asked for one at a time. -/
structure Stream where
  session : Session
  /-- Events that were found and not asked for yet. -/
  pending : List EventRecord := []

/-- What a stream has to say. -/
inductive Poll
  /-- Nothing for now. -/
  | pending
  | event (record : EventRecord)
deriving DecidableEq, Repr

namespace Stream

/-- The event socket. -/
def socket (s : Stream) : Socket := s.session.event.socket

/-- The session with the readiness of its event socket set. -/
def markReady (ready : Bool) (s : Session) : Session :=
  { s with event := { s.event with socket := { s.event.socket with ready := ready } } }

/-- Makes a session a stream, ready when there are arrivals. A session that cannot leave blocking
mode is dropped. -/
def start (s : Session) : Ran Effect Stream Unit :=
  let switched := Session.setMode .nonBlocking s
  match switched.result with
  | .error e =>
    let dropped := Session.drop switched.state
    ⟨{ session := dropped.state }, switched.trace ++ dropped.trace, .error e⟩
  | .ok () =>
    let s := switched.state
    ⟨{ session := markReady (!s.event.socket.queue.isEmpty) s }, switched.trace, .ok ()⟩

/-- Receives everything there is and keeps the events. -/
def collect : Action Effect Stream Unit := fun s =>
  let visit : Visitor Event (List EventRecord) Empty := fun found event =>
    (found ++ [event.record], .proceed)
  let ran := Session.dispatchEvents .nonBlocking visit (markReady false s.session, s.pending)
  ⟨⟨ran.state.1, ran.state.2⟩, ran.trace, ran.result.map fun _ => ()⟩

theorem backlog_collect_lt {s : Stream} (h : s.socket.ready = true) :
    (collect s).state.socket.backlog < s.socket.backlog := by
  refine Nat.lt_of_le_of_lt (Socket.backlog_pump_le ..) ?_
  simp only [socket] at h
  simp [socket, markReady, Socket.backlog, h]

/-- The next event. -/
def next (s : Stream) : Ran Effect Stream Poll :=
  match s.pending with
  | event :: rest => ⟨{ s with pending := rest }, [], .ok (.event event)⟩
  | [] =>
    if h : s.socket.ready = true then
      let collected := collect s
      match collected.result with
      | .error e => ⟨collected.state, collected.trace, .error e⟩
      | .ok () =>
        have : collected.state.socket.backlog < s.socket.backlog := backlog_collect_lt h
        (next collected.state).after collected.trace
    else ⟨s, [], .ok .pending⟩
termination_by s.socket.backlog

/-- An event that was given is one less to wait for, after looks that left less to receive. -/
theorem next_decreases {s : Stream} {record : EventRecord}
    (h : (next s).result = .ok (.event record)) :
    Prod.Lex (· < ·) (· < ·) ((next s).state.socket.backlog, (next s).state.pending.length)
      (s.socket.backlog, s.pending.length) := by
  fun_induction next s with
  | case1 s event rest hs =>
    rw [hs]
    exact .right _ (Nat.lt_succ_self _)
  | case2 => simp at h
  | case3 s _ _ _ _ hlt ih =>
    refine .left _ _ (Nat.lt_of_le_of_lt ?_ hlt)
    rcases Prod.lex_def.mp (ih h) with hless | ⟨hsame, -⟩
    · exact Nat.le_of_lt hless
    · exact Nat.le_of_eq hsame
  | case4 => simp at h

/-- Hands the session back. Events that were not asked for are lost. -/
def intoSession (s : Stream) : Session := s.session

end Stream

end SampleTap
