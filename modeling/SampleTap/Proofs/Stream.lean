import Mathlib.Tactic.SplitIfs
import SampleTap.Proofs.Session.Dispatch
import SampleTap.Stream

/-!
# Looks of a stream

A stream looks at the event connection's queue when it has no event left and the socket is ready. A
look goes no further than the first arrival that ends it (`Session.endsLook`): a failed receive, an
empty datagram or one that cannot be read to its end. What is behind that arrival stays in the queue
(`Session.leftBehind`), and the socket is not ready any more (`Stream.socket_collect`).

A pause ends a look too, but the socket is ready again behind it. Over a queue in which nothing else
ends a look (`Session.Readable`), looks do not fail and none leaves arrivals behind for good
(`Session.dispatch_ofEvents_of_readable`).
-/

namespace SampleTap

variable {σ τ β : Type}

/-! ## Visitors that answer alike -/

/-- Whether two visitors give the same answers, whatever their states are. -/
def CommandVisitor.Alike (v : CommandVisitor σ β) (w : CommandVisitor τ β) : Prop :=
  ∀ x y code attributes, (v x code attributes).2 = (w y code attributes).2

namespace CommandVisitor

variable {v : CommandVisitor σ β} {w : CommandVisitor τ β}

theorem Alike.onType (h : v.Alike w) (type : UInt16) (x : σ) (y : τ) (m : Message) :
    (v.onType type x m).2 = (w.onType type y m).2 := by
  simp only [CommandVisitor.onType, CommandVisitor.onMessage]
  by_cases htype : m.header.type = type
  · rw [if_pos htype, if_pos htype]
    cases CommandHeader.split? m.payload with
    | none => rfl
    | some split => exact h x y split.1.command split.2
  · rw [if_neg htype, if_neg htype]

/-- Visitors that answer alike end a batch alike. -/
theorem Alike.run (h : v.Alike w) (type : UInt16) (seq? : Option UInt32) (x : σ) (y : τ)
    (data : Bytes) :
    (Batch.run seq? (v.onType type) x data).2 = (Batch.run seq? (w.onType type) y data).2 := by
  simp only [Batch.run]
  generalize (Message.split data).2 = fault?
  -- Only the answers agree, so the induction is for any two states.
  induction (Message.split data).1 generalizing x y with
  | nil => cases fault? <;> rfl
  | cons m rest ih =>
    simp only [Batch.runMessages]
    split_ifs
    · exact ih x y
    · exact ih x y
    · rfl
    · rfl
    · have hanswer := h.onType type x y m
      generalize v.onType type x m = visited at hanswer ⊢
      generalize w.onType type y m = visited' at hanswer ⊢
      obtain ⟨x', answer⟩ := visited
      obtain ⟨y', answer'⟩ := visited'
      obtain rfl : answer = answer' := hanswer
      match answer with
      | .error e => rfl
      | .ok (.stop value) => rfl
      | .ok .proceed => exact ih x' y'

end CommandVisitor

/-! ## Looks at a queue -/

namespace Session

/-- Whether a look at the queue goes no further than an arrival: the receive fails, the datagram is
empty, or its messages cannot be read to the end. -/
def endsLook (s : Session) (arrival : Arrival) : Bool :=
  match Socket.read s.event.socket.capacity arrival with
  | .error _ => true
  | .ok data =>
    data.isEmpty ||
      match (Batch.run none ((eventVisitor Event.lookOn).onType s.event.family.id) () data).2 with
      | .error _ => true
      | .ok _ => false

/-- What a look leaves in the queue: everything when the connection cannot switch modes, and else
what is behind the first arrival that ends the look. -/
def leftBehind (s : Session) : List Arrival :=
  match s.event.socket.faults s.event.socket.made .setMode with
  | some _ => s.event.socket.queue
  | none => (s.event.socket.queue.dropWhile fun arrival => !s.endsLook arrival).tail

variable {visit : Visitor Event σ Empty}

/-- Visitors of events that never stop answer alike. -/
theorem alike_eventVisitor {visit' : Visitor Event τ Empty}
    (hvisit : ∀ x event, (visit x event).2 = .proceed)
    (hvisit' : ∀ y event, (visit' y event).2 = .proceed) :
    (eventVisitor visit).Alike (eventVisitor visit') := by
  intro x y code attributes
  unfold eventVisitor
  cases AttrTable.parse attributes with
  | error e => rfl
  | ok t => simp [hvisit, hvisit']

/-- A look goes on behind an arrival unless the arrival ends it, if the visitor always proceeds. -/
theorem reactTo_eq_again_iff (hvisit : ∀ x event, (visit x event).2 = .proceed) (s : Session)
    (x : σ) (arrival : Arrival) :
    (s.reactTo .nonBlocking (.ofEvents visit) x arrival).2 = .ok .again ↔
      s.endsLook arrival = false := by
  -- A visitor that never stops answers as the one does that only looks on.
  have halike : (eventVisitor visit).Alike (eventVisitor Event.lookOn) :=
    alike_eventVisitor hvisit fun _ _ => rfl
  simp only [reactTo, Socket.reaction, endsLook, Handlers.onCommand_ofEvents]
  cases Socket.read s.event.socket.capacity arrival with
  | error e => by_cases hblocks : e.isWouldBlock <;> simp [hblocks]
  | ok data =>
    by_cases hempty : data.isEmpty
    · simp [hempty]
    · have hrun := halike.run s.event.family.id none x () data
      simp only [hempty, Bool.false_eq_true, if_false, Bool.false_or, ← hrun]
      match Batch.run none ((eventVisitor visit).onType s.event.family.id) x data with
      | (x', .error e) => simp
      | (x', .ok .more) => simp
      | (x', .ok .done) => simp

/-- A look by a visitor that never stops takes the queue up to the first arrival that ends it. -/
theorem unread_passOver (hvisit : ∀ x event, (visit x event).2 = .proceed) (s : Session) (x : σ)
    (queue : List Arrival) :
    (s.passOver (.ofEvents visit) x queue).unread =
      (queue.dropWhile fun arrival => !s.endsLook arrival).tail := by
  induction queue generalizing x with
  | nil => rfl
  | cons arrival rest ih =>
    have hagain := reactTo_eq_again_iff hvisit s x arrival
    cases hends : s.endsLook arrival with
    | false => rw [passOver_cons_of_again rest (hagain.mpr hends), ih]; simp [hends]
    | true =>
      have hstop : (s.reactTo .nonBlocking (.ofEvents visit) x arrival).2 ≠ .ok .again := by
        simp [hagain, hends]
      rw [passOver_cons_of_ne_again rest hstop]
      simp [hends]

/-- Whether no arrival makes a look fail or cuts it short for good: each can be read to its end, or
is a pause. -/
def Readable (s : Session) (queue : List Arrival) : Prop :=
  ∀ arrival ∈ queue, arrival = .pause ∨ s.endsLook arrival = false

instance (s : Session) (queue : List Arrival) : Decidable (s.Readable queue) :=
  inferInstanceAs (Decidable (∀ arrival ∈ queue, _))

/-- A pause ends a look without a failure. -/
theorem reactTo_pause (handlers : Handlers σ β) (s : Session) (x : σ) :
    s.reactTo .nonBlocking handlers x .pause = (x, .ok (.over .proceed)) := rfl

/-- Over arrivals that can be read a pass succeeds. -/
theorem result_passOver_of_readable (hvisit : ∀ x event, (visit x event).2 = .proceed)
    {s : Session} {queue : List Arrival} (h : s.Readable queue) (x : σ) :
    (s.passOver (.ofEvents visit) x queue).result = .ok .proceed := by
  induction queue generalizing x with
  | nil => rfl
  | cons arrival rest ih =>
    obtain ⟨harrival, hrest⟩ := List.forall_mem_cons.mp h
    rcases harrival with rfl | hgoes
    · rw [passOver_cons_of_ne_again rest (by simp [reactTo_pause])]
      rfl
    · rw [passOver_cons_of_again rest ((reactTo_eq_again_iff hvisit s x arrival).mpr hgoes)]
      exact ih hrest _

/-- A look at a readable queue fails only when the connection cannot switch modes. It empties the
queue or leaves the socket ready. -/
theorem dispatch_ofEvents_of_readable (hvisit : ∀ x event, (visit x event).2 = .proceed)
    {s : Session} (x : σ) (h : s.Readable s.event.socket.queue)
    (hfault : s.event.socket.faults s.event.socket.made .setMode = none) :
    let ran := dispatch .nonBlocking (.ofEvents visit) (s, x)
    ran.result = .ok .proceed ∧
      (ran.state.1.event.socket.ready = true ∨ ran.state.1.event.socket.queue = []) := by
  intro ran
  obtain ⟨_, -, hresult⟩ := dispatch_nonBlocking (.ofEvents visit) x hfault
  refine ⟨hresult.trans (result_passOver_of_readable hvisit h x), ?_⟩
  have hran : ran = dispatch .nonBlocking (.ofEvents visit) (s, x) := rfl
  rw [hran, dispatch_eq_pump, Socket.pump_nonBlocking hfault]
  refine Socket.awake_drain (s := s.event.socket.switched .nonBlocking) x fun arrival harrival => ?_
  exact (h arrival harrival).imp_right fun hgoes y => (reactTo_eq_again_iff hvisit s y arrival).mpr
    hgoes

/-- A visitor that always proceeds leaves in the queue what a look leaves behind. -/
theorem queue_dispatch_ofEvents (hvisit : ∀ x event, (visit x event).2 = .proceed) (s : Session)
    (x : σ) :
    (dispatch .nonBlocking (.ofEvents visit) (s, x)).state.1.event.socket.queue = s.leftBehind := by
  unfold leftBehind
  cases hfault : s.event.socket.faults s.event.socket.made .setMode with
  | some errno => rw [(dispatch_error .nonBlocking (.ofEvents visit) x hfault).1, socket_withSocket]
  | none =>
    obtain ⟨_, hstate, -⟩ := dispatch_nonBlocking (.ofEvents visit) x hfault
    rw [hstate, socket_withSocket]
    exact unread_passOver hvisit s x _

end Session

/-! ## Looks of a stream -/

namespace Stream

/-- The visitor of a look. -/
def keep : Visitor Event (List EventRecord) Empty := fun found event =>
  (found ++ [event.record], .proceed)

theorem keep_proceeds (found : List EventRecord) (event : Event) :
    (keep found event).2 = .proceed := rfl

/-- A look of a stream is a dispatch whose visitor keeps events behind those that are pending. -/
theorem state_collect (t : Stream) :
    (collect t).state.session = (Session.dispatch .nonBlocking (.ofEvents keep)
      (markReady false t.session, t.pending)).state.1 := by
  rw [← Session.dispatchEvents_eq_dispatch]
  rfl

/-- A session that can leave blocking mode becomes a stream. The stream is ready over a queue that
is not empty. -/
theorem start_of_switched {s : Session}
    (h : s.event.socket.faults s.event.socket.made .setMode = none) :
    start s = ⟨{ session := s.withSocket { s.event.socket.switched .nonBlocking with
      ready := !s.event.socket.queue.isEmpty } }, [.call .event (.switched .nonBlocking)],
      .ok ()⟩ := by
  have hswitched : Session.setMode .nonBlocking s =
      ⟨s.withSocket (s.event.socket.switched .nonBlocking),
        [.call .event (.switched .nonBlocking)], .ok ()⟩ := by
    rw [Session.setMode, Session.onEvent_eq, Socket.setMode_ok h]
    rfl
  rw [start, hswitched]
  rfl

/-- A stream that starts has its session in non-blocking mode and no events yet. -/
theorem start_ok {s : Session} (h : (start s).result = .ok ()) :
    (start s).state = { session := s.withSocket { s.event.socket.switched .nonBlocking with
      ready := !s.event.socket.queue.isEmpty } } := by
  cases hfault : s.event.socket.faults s.event.socket.made .setMode with
  | some errno =>
    have hresult : (Session.setMode .nonBlocking s).result = .error (.os errno) :=
      congrArg Ran.result (Socket.setMode_error hfault)
    simp [start, hresult] at h
  | none => rw [start_of_switched hfault]

/-- A look leaves the socket not ready, and in its queue what looks leave behind. -/
theorem socket_collect {t : Stream} (hpause : .pause ∉ t.socket.queue) :
    (collect t).state.socket.ready = false ∧
      (collect t).state.socket.queue = t.session.leftBehind := by
  rw [socket, state_collect]
  exact ⟨Session.ready_dispatch _ _ hpause rfl, Session.queue_dispatch_ofEvents keep_proceeds _ _⟩

/-! ## Polls -/

/-- A stream gives the events that it has before it looks for more. -/
theorem next_of_pending {t : Stream} {event : EventRecord} {rest : List EventRecord}
    (h : t.pending = event :: rest) :
    next t = ⟨{ t with pending := rest }, [], .ok (.event event)⟩ := by
  rw [next]
  split <;> simp_all

/-- Without an event and without readiness a stream has nothing for now. -/
theorem next_of_unready {t : Stream} (h : t.pending = []) (hready : t.socket.ready = false) :
    next t = ⟨t, [], .ok .pending⟩ := by
  rw [next]
  split <;> simp_all

/-- Without an event a stream that is ready looks, and goes on unless the look failed. -/
theorem next_of_ready {t : Stream} (h : t.pending = []) (hready : t.socket.ready = true) :
    next t =
      match (collect t).result with
      | .error e => ⟨(collect t).state, (collect t).trace, .error e⟩
      | .ok () => (next (collect t).state).after (collect t).trace := by
  cases hresult : (collect t).result with
  | error e =>
    rw [next]
    split
    · simp_all
    · simp [hready, hresult]
  | ok _ =>
    rw [next]
    split
    · simp_all
    · simp [hready, hresult]

/-- Whether a poll looks at the queue. -/
def Looks (t : Stream) : Prop := t.pending = [] ∧ t.socket.ready = true

/-- A poll that does not look leaves the socket as it is. -/
theorem socket_next_of_not_looks {t : Stream} (h : ¬ t.Looks) :
    (next t).state.socket = t.socket := by
  cases hpending : t.pending with
  | cons event rest => rw [next_of_pending hpending]; rfl
  | nil =>
    have hready : t.socket.ready = false := by simpa [Looks, hpending] using h
    rw [next_of_unready hpending hready]

/-- A poll that looks leaves the socket as its look does. -/
theorem socket_next_of_looks {t : Stream} (hpause : .pause ∉ t.socket.queue) (h : t.Looks) :
    (next t).state.socket.ready = false ∧ (next t).state.socket.queue = t.session.leftBehind := by
  have hcollect := socket_collect hpause
  rw [next_of_ready h.1 h.2]
  cases (collect t).result with
  | error e => exact hcollect
  | ok _ =>
    -- A look that went well is followed by another poll, and that one does not look.
    have hlast : ¬ (collect t).state.Looks := by simp [Looks, hcollect.1]
    show (next (collect t).state).state.socket.ready = false ∧
      (next (collect t).state).state.socket.queue = _
    rw [socket_next_of_not_looks hlast]
    exact hcollect

/-- A stream that has nothing for now has no event left and is not ready. -/
theorem of_next_eq_pending {t : Stream} (h : (next t).result = .ok .pending) :
    (next t).state.pending = [] ∧ (next t).state.socket.ready = false := by
  fun_induction next t with
  | case1 t event rest hpending => simp at h
  | case2 t hpending hready collected e herror => simp at h
  | case3 t hpending hready collected hok hlt ih => exact ih h
  | case4 t hpending hready => exact ⟨hpending, by simpa using hready⟩

end Stream

end SampleTap
