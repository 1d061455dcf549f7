import SampleTap.Proofs.GroupFilter
import SampleTap.Proofs.Socket.Pass
import SampleTap.Session.Dispatch

/-!
# Dispatching as a pass

`Session.dispatch` in terms of the event connection's queue: in non-blocking mode it is a pass over
the queue, in blocking mode the reaction to its first arrival. Nothing else of the session changes.
A visitor of events is a pair of handlers (`dispatchEvents_eq_dispatch`), so what is said of
`dispatch` is said of `dispatchEvents`.
-/

namespace SampleTap

/-- The handlers that show every event to one visitor. -/
def Handlers.ofEvents {σ β : Type} (visit : Visitor Event σ β) : Handlers σ β where
  sample := some fun x view => visit x (.sample view)
  config := some fun x view => visit x (.config view)

theorem Handlers.onCommand_ofEvents {σ β : Type} (visit : Visitor Event σ β) :
    (Handlers.ofEvents visit).onCommand = Session.eventVisitor visit := by
  funext x code attributes
  by_cases hcode : code = Command.sample.code <;>
    simp [Handlers.onCommand, Handlers.ofEvents, Handlers.accepts, Handlers.invoke,
      Session.eventVisitor, Event.classify, hcode]

/-- The visitor that only looks on. -/
def Event.lookOn : Visitor Event Unit Empty := fun x _ => (x, .proceed)

/-- Handlers that keep every event. -/
def Handlers.collecting : Handlers (List Event) Empty :=
  .ofEvents fun events event => (events ++ [event], .proceed)

namespace Session

variable {σ β : Type}

/-- A new session of the family numbered 29, with arrivals on its event connection. -/
def withArrivals (queue : List Arrival) : Session where
  event := ⟨{ queue }, { id := 29 }, familyVersion⟩
  control := ⟨{}, { id := 29 }, familyVersion⟩

/-- A peer that knows the sampling family and joins groups as it is asked to. -/
def samplingPeer : Connection :=
  ⟨{}, { id := 29, groups := [(configGroupName, 9), (sampleGroupName, 10)] }, familyVersion⟩

/-- Dispatching events is dispatching to two handlers that wrap the event. -/
theorem dispatchEvents_eq_dispatch (mode : Mode) (visit : Visitor Event σ β) :
    dispatchEvents mode visit = dispatch mode (.ofEvents visit) := by
  rw [dispatchEvents, dispatch, Handlers.onCommand_ofEvents]

/-- The session with its event connection on another socket. -/
def withSocket (s : Session) (socket : Socket) : Session :=
  { s with event := { s.event with socket } }

@[simp] theorem socket_withSocket (s : Session) (socket : Socket) :
    (s.withSocket socket).event.socket = socket := rfl

@[simp] theorem family_withSocket (s : Session) (socket : Socket) :
    (s.withSocket socket).event.family = s.event.family := rfl

theorem onEvent_eq {α : Type} (act : Socket.Act α) (s : Session) :
    onEvent (Connection.onSocket act) s = ⟨s.withSocket (act s.event.socket).state,
      (act s.event.socket).trace.map (.call .event), (act s.event.socket).result⟩ := by
  simp [onEvent, Connection.onSocket, Action.on, withSocket]

/-- A pass of the handlers over a queue of the event connection. -/
def passOver (s : Session) (handlers : Handlers σ β) (x : σ) (queue : List Arrival) :
    Socket.Outcome σ β :=
  Socket.pass s.event.family.id handlers.onCommand s.event.socket.capacity x queue

/-- What the handlers make of one arrival at the event connection. -/
def reactTo (s : Session) (mode : Mode) (handlers : Handlers σ β) (x : σ) (arrival : Arrival) :
    σ × Except Error (Socket.Turn β) :=
  Socket.reaction s.event.family.id mode handlers.onCommand s.event.socket.capacity x arrival

theorem passOver_cons_of_again {s : Session} {handlers : Handlers σ β} {x : σ} {arrival : Arrival}
    (rest : List Arrival) (h : (s.reactTo .nonBlocking handlers x arrival).2 = .ok .again) :
    s.passOver handlers x (arrival :: rest) =
      s.passOver handlers (s.reactTo .nonBlocking handlers x arrival).1 rest :=
  Socket.pass_cons_of_again rest h

/-- An arrival that ends a pass leaves the others unread. -/
theorem passOver_cons_of_ne_again {s : Session} {handlers : Handlers σ β} {x : σ}
    {arrival : Arrival} (rest : List Arrival)
    (h : (s.reactTo .nonBlocking handlers x arrival).2 ≠ .ok .again) :
    s.passOver handlers x (arrival :: rest) =
      ⟨(s.reactTo .nonBlocking handlers x arrival).1, rest,
        (s.reactTo .nonBlocking handlers x arrival).2.map Socket.Turn.flow⟩ :=
  Socket.pass_cons_of_ne_again rest h

/-- A dispatch is a pump of the event connection for the commands of the handlers. -/
theorem dispatch_eq_pump (mode : Mode) (handlers : Handlers σ β) (s : Session) (x : σ) :
    dispatch mode handlers (s, x) =
      let ran := Socket.pump s.event.family.id mode handlers.onCommand (s.event.socket, x)
      ⟨(s.withSocket ran.state.1, ran.state.2), ran.trace.map (.call .event), ran.result⟩ := rfl

/-- A dispatch that cannot switch modes leaves the queue and the visitor's state alone. -/
theorem dispatch_error (mode : Mode) (handlers : Handlers σ β) {s : Session} (x : σ) {errno : Int}
    (h : s.event.socket.faults s.event.socket.made .setMode = some errno) :
    (dispatch mode handlers (s, x)).state =
        (s.withSocket { s.event.socket with made := s.event.socket.made + 1 }, x) ∧
      (dispatch mode handlers (s, x)).result = .error (.os errno) := by
  rw [dispatch_eq_pump, Socket.pump_error h]
  exact ⟨rfl, rfl⟩

/-- A non-blocking dispatch is a pass over the queue. -/
theorem dispatch_nonBlocking (handlers : Handlers σ β) {s : Session} (x : σ)
    (h : s.event.socket.faults s.event.socket.made .setMode = none) :
    ∃ ready, (dispatch .nonBlocking handlers (s, x)).state =
        (s.withSocket { s.event.socket.switched .nonBlocking with
            queue := (s.passOver handlers x s.event.socket.queue).unread, ready },
          (s.passOver handlers x s.event.socket.queue).state) ∧
      (dispatch .nonBlocking handlers (s, x)).result =
        (s.passOver handlers x s.event.socket.queue).result := by
  obtain ⟨ready, hstate, hresult⟩ := Socket.drain_eq_pass s.event.family.id handlers.onCommand
    (s.event.socket.switched .nonBlocking) x
  refine ⟨ready, ?_, ?_⟩
  · rw [dispatch_eq_pump, Socket.pump_nonBlocking h]
    simp only [Ran.after, hstate]
    rfl
  · rw [dispatch_eq_pump, Socket.pump_nonBlocking h]
    exact hresult

/-- A blocking dispatch takes the first arrival off the queue and reacts to it. -/
theorem dispatch_blocking_cons (handlers : Handlers σ β) {s : Session} (x : σ) {arrival : Arrival}
    {rest : List Arrival} (h : s.event.socket.faults s.event.socket.made .setMode = none)
    (hqueue : s.event.socket.queue = arrival :: rest) :
    (dispatch .blocking handlers (s, x)).state =
        (s.withSocket ((s.event.socket.switched .blocking).afterReceive arrival rest),
          (s.reactTo .blocking handlers x arrival).1) ∧
      (dispatch .blocking handlers (s, x)).result =
        (s.reactTo .blocking handlers x arrival).2.map Socket.Turn.flow := by
  have hswitched : (s.event.socket.switched .blocking).queue = arrival :: rest := hqueue
  rw [dispatch_eq_pump, Socket.pump_blocking h, Socket.turn_cons hswitched]
  exact ⟨rfl, rfl⟩

/-- A blocking dispatch on an empty queue blocks. -/
theorem dispatch_blocking_nil (handlers : Handlers σ β) {s : Session} (x : σ)
    (h : s.event.socket.faults s.event.socket.made .setMode = none)
    (hqueue : s.event.socket.queue = []) :
    (dispatch .blocking handlers (s, x)).state =
        (s.withSocket { s.event.socket.switched .blocking with ready := false }, x) ∧
      (dispatch .blocking handlers (s, x)).result = .error (.os Errno.wouldBlock) := by
  have hswitched : (s.event.socket.switched .blocking).queue = [] := hqueue
  rw [dispatch_eq_pump, Socket.pump_blocking h, Socket.turn_nil hswitched]
  exact ⟨rfl, rfl⟩

/-- Without a pause in the queue, a non-blocking dispatch does not make the socket ready. -/
theorem ready_dispatch (handlers : Handlers σ β) {s : Session} (x : σ)
    (hpause : .pause ∉ s.event.socket.queue) (hready : s.event.socket.ready = false) :
    (dispatch .nonBlocking handlers (s, x)).state.1.event.socket.ready = false := by
  cases hfault : s.event.socket.faults s.event.socket.made .setMode with
  | some errno =>
    rw [(dispatch_error .nonBlocking handlers x hfault).1]
    exact hready
  | none =>
    rw [dispatch_eq_pump, Socket.pump_nonBlocking hfault]
    exact Socket.ready_drain hpause hready

/-- A dispatch takes arrivals off the front of the queue. Besides the queue only the mode, the
readiness and the count of calls of the event socket change. -/
theorem exists_frame_dispatch (mode : Mode) (handlers : Handlers σ β) (s : Session) (x : σ) :
    ∃ mode' made queue ready, (dispatch mode handlers (s, x)).state.1 =
        s.withSocket { s.event.socket with mode := mode', made, queue, ready } ∧
      queue <:+ s.event.socket.queue := by
  -- The cases are those of the pump: no switch, a pass, or one arrival if there is any.
  cases hfault : s.event.socket.faults s.event.socket.made .setMode with
  | some errno =>
    obtain ⟨hstate, -⟩ := dispatch_error mode handlers x hfault
    exact ⟨_, _, _, _, congrArg Prod.fst hstate, List.suffix_refl _⟩
  | none =>
    cases mode with
    | nonBlocking =>
      obtain ⟨_, hstate, -⟩ := dispatch_nonBlocking handlers x hfault
      exact ⟨_, _, _, _, congrArg Prod.fst hstate, Socket.unread_pass_suffix ..⟩
    | blocking =>
      cases hqueue : s.event.socket.queue with
      | nil =>
        obtain ⟨hstate, -⟩ := dispatch_blocking_nil handlers x hfault hqueue
        exact ⟨_, _, _, _, congrArg Prod.fst hstate, by simp [Socket.switched, hqueue]⟩
      | cons arrival rest =>
        obtain ⟨hstate, -⟩ := dispatch_blocking_cons handlers x hfault hqueue
        exact ⟨_, _, _, _, congrArg Prod.fst hstate, List.suffix_cons arrival rest⟩

/-- The filter and the receive buffer stay as they are. -/
theorem exists_socket_dispatch (mode : Mode) (handlers : Handlers σ β) (s : Session) (x : σ) :
    ∃ socket : Socket, (dispatch mode handlers (s, x)).state.1 = s.withSocket socket ∧
      socket.filter = s.event.socket.filter ∧ socket.capacity = s.event.socket.capacity ∧
      socket.queue <:+ s.event.socket.queue := by
  obtain ⟨mode', made, queue, ready, hstate, hqueue⟩ := exists_frame_dispatch mode handlers s x
  exact ⟨_, hstate, rfl, rfl, hqueue⟩

end Session

end SampleTap
