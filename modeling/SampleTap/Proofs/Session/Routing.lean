import Mathlib.Control.Monad.Basic
import SampleTap.Proofs.Session.Visiting

/-!
# Handlers as a visitor of events

Handlers look at a notification's command before they read it, and pass over those that none of them
takes; a visitor of events is shown every notification, and each is read. The two are one and the
same as long as the notifications can be read (`dispatch_eq_forward`): handlers are the visitor that
hands each event to the handler that takes it (`Handlers.forward`).

So of the events that a visitor would be shown, handlers are handed those that one of them takes
(`Handlers.take?`), in order (`dispatch_routes_events`).
-/

namespace SampleTap

variable {σ β : Type}

/-! ## Visitors that agree -/

/-- Visitors that agree on the messages of a batch run it alike. -/
theorem Batch.runMessages_congr {seq? : Option UInt32}
    {visit visit' : σ → Message → σ × Except Error (Flow β)} {fault? : Option Error}
    {messages : List Message} (h : ∀ m ∈ messages, ∀ x, visit x m = visit' x m) (x : σ) :
    runMessages seq? visit fault? x messages = runMessages seq? visit' fault? x messages := by
  induction messages generalizing x with
  | nil => rfl
  | cons m rest ih =>
    have hrest := ih fun m' hm' => h m' (List.mem_cons_of_mem m hm')
    simp only [runMessages, h m List.mem_cons_self x]
    rcases visit' x m with ⟨y, e | _ | value⟩ <;> simp only [hrest]

namespace Socket

variable {type : UInt16} {visit visit' : CommandVisitor σ β} {s : Socket}

/-- Visitors that react alike to what is in the queue drain it alike. -/
theorem drain_congr (h : ∀ arrival ∈ s.queue, ∀ x,
      reaction type .nonBlocking visit s.capacity x arrival =
        reaction type .nonBlocking visit' s.capacity x arrival) (x : σ) :
    drain type visit s x = drain type visit' s x := by
  generalize hqueue : s.queue = queue at h
  induction queue generalizing s x with
  | nil => rw [drain_nil hqueue, drain_nil hqueue]
  | cons arrival rest ih =>
    have hrest (y : σ) : drain type visit (afterReceive s arrival rest) y =
        drain type visit' (afterReceive s arrival rest) y :=
      ih y rfl fun arrival' harrival' => h arrival' (List.mem_cons_of_mem arrival harrival')
    rw [drain_cons hqueue, drain_cons hqueue, h arrival List.mem_cons_self x]
    rcases reaction type .nonBlocking visit' s.capacity x arrival with ⟨y, e | _ | flow⟩
    · rfl
    · exact congrArg (Ran.after [.received]) (hrest y)
    · rfl

/-- Visitors that react alike to what is in the queue pump alike. -/
theorem pump_congr (mode : Mode) (h : ∀ arrival ∈ s.queue, ∀ x,
      reaction type mode visit s.capacity x arrival =
        reaction type mode visit' s.capacity x arrival) (x : σ) :
    pump type mode visit (s, x) = pump type mode visit' (s, x) := by
  cases hfault : s.faults s.made .setMode with
  | some errno => rw [pump_error hfault, pump_error hfault]
  | none =>
    cases mode with
    | nonBlocking =>
      rw [pump_nonBlocking hfault, pump_nonBlocking hfault]
      exact congrArg (Ran.after _) (drain_congr (s := s.switched .nonBlocking) h x)
    | blocking =>
      rw [pump_blocking hfault, pump_blocking hfault]
      cases hqueue : s.queue with
      | nil =>
        have hswitched : (s.switched .blocking).queue = [] := hqueue
        rw [turn_nil hswitched, turn_nil hswitched]
      | cons arrival rest =>
        have hswitched : (s.switched .blocking).queue = arrival :: rest := hqueue
        have hfirst : reaction type .blocking visit (s.switched .blocking).capacity x arrival =
            reaction type .blocking visit' (s.switched .blocking).capacity x arrival :=
          h arrival (by rw [hqueue]; exact List.mem_cons_self) x
        rw [turn_cons hswitched, turn_cons hswitched, hfirst]

end Socket

/-! ## Handing events to handlers -/

namespace Handlers

/-- Hands an event to the handler that takes it: a sample to the handler of samples or, when there
is none, to the other handler under the command of samples; a change to a group to the other. -/
def forward (h : Handlers σ β) : Visitor Event σ β := fun x event =>
  match event, h.sample, h.config with
  | .sample view, some visit, _ => visit x view
  | .sample view, none, some visit => visit x ⟨Command.sample.code, view.table⟩
  | .config view, _, some visit => visit x view
  | _, _, _ => (x, .proceed)

/-- What a handler is handed because of an event. -/
def take? (h : Handlers σ β) : Event → Option Event
  | .sample view =>
    if h.sample.isSome then some (.sample view)
    else if h.config.isSome then some (.config ⟨0, view.table⟩)
    else none
  | .config view => if h.config.isSome then some (.config view) else none

/-- Of a notification that can be read, handlers make what they make of its event. -/
theorem onCommand_of_parse (h : Handlers σ β) (x : σ) (code : UInt8) {attributes : Bytes}
    {table : AttrTable} (hparse : AttrTable.parse attributes = .ok table) :
    h.onCommand x code attributes = Session.eventVisitor h.forward x code attributes := by
  simp only [onCommand, Session.eventVisitor, hparse, Event.classify, accepts, invoke]
  by_cases hcode : code = Command.sample.code
  · rcases hsample : h.sample with _ | visit <;> rcases hconfig : h.config with _ | visit' <;>
      simp [hcode, forward, hsample, hconfig]
  · rcases hsample : h.sample with _ | visit <;> rcases hconfig : h.config with _ | visit' <;>
      simp [hcode, forward, hsample, hconfig]

/-- Recording handlers write down what a handler takes of an event. -/
theorem forward_recording (h : Handlers σ β) (x : σ) (log : List Event) (event : Event) :
    h.recording.forward (x, log) event =
      (((h.forward x event).1, log ++ (h.take? event).toList), (h.forward x event).2) := by
  rcases hsample : h.sample with _ | visit <;> rcases hconfig : h.config with _ | visit' <;>
    cases event <;> simp [forward, recording, take?, hsample, hconfig, Command.code]

/-- Shown events in order, recording handlers write down those that a handler takes: all of them
when no handler stops. -/
theorem along_forward_recording (h : Handlers σ β) (x : σ) (log : List Event)
    (events : List Event) :
    ∃ calls, h.recording.forward.along (x, log) events =
        (((h.forward.along x events).1, log ++ calls), (h.forward.along x events).2) ∧
      calls <+: events.filterMap h.take? ∧
      ((h.forward.along x events).2 = .proceed → calls = events.filterMap h.take?) := by
  induction events generalizing x log with
  | nil => exact ⟨[], by simp [Visitor.along], List.prefix_refl _, fun _ => rfl⟩
  | cons event rest ih =>
    have hvisited := h.forward_recording x log event
    have hfilter : (event :: rest).filterMap h.take? =
        (h.take? event).toList ++ rest.filterMap h.take? := by
      rw [List.filterMap_cons]
      cases h.take? event <;> rfl
    cases hflow : (h.forward x event).2 with
    | proceed =>
      obtain ⟨calls, halong, hprefix, hall⟩ :=
        ih (h.forward x event).1 (log ++ (h.take? event).toList)
      refine ⟨(h.take? event).toList ++ calls, ?_, ?_, ?_⟩
      · rw [Visitor.along_cons_of_proceed rest hflow,
          Visitor.along_cons_of_proceed rest (by rw [hvisited, hflow]), hvisited, halong,
          List.append_assoc]
      · rw [hfilter]
        exact (List.prefix_append_right_inj _).mpr hprefix
      · intro hproceed
        rw [Visitor.along_cons_of_proceed rest hflow] at hproceed
        rw [hfilter, hall hproceed]
    | stop value =>
      refine ⟨(h.take? event).toList, ?_, ?_, ?_⟩
      · rw [Visitor.along_cons_of_stop rest hflow,
          Visitor.along_cons_of_stop rest (by rw [hvisited, hflow]), hvisited]
      · rw [hfilter]
        exact List.prefix_append _ _
      · rw [Visitor.along_cons_of_stop rest hflow]
        simp

end Handlers

/-! ## Dispatches -/

namespace Session

/-- Whether the notifications of the session's family in an arrival can all be read. -/
def decodes (s : Session) (arrival : Arrival) : Bool :=
  match Socket.read s.event.socket.capacity arrival with
  | .error _ => true
  | .ok data =>
    (Message.split data).1.all fun m =>
      m.header.type != s.event.family.id ||
        match CommandHeader.split? m.payload with
        | none => false
        | some (_, attributes) => (AttrTable.parse attributes).toOption.isSome

/-- Of an arrival whose notifications can be read, handlers make what they make of its events. -/
theorem reactTo_eq_forward {s : Session} {arrival : Arrival} (hdecodes : s.decodes arrival = true)
    (mode : Mode) (h : Handlers σ β) (x : σ) :
    s.reactTo mode h x arrival = s.reactTo mode (.ofEvents h.forward) x arrival := by
  simp only [reactTo, Socket.reaction, Handlers.onCommand_ofEvents]
  unfold decodes at hdecodes
  cases hread : Socket.read s.event.socket.capacity arrival with
  | error e => rfl
  | ok data =>
    have hmessage : ∀ m ∈ (Message.split data).1, ∀ y : σ,
        h.onCommand.onType s.event.family.id y m =
          (eventVisitor h.forward).onType s.event.family.id y m := by
      intro m hm y
      simp only [hread, List.all_eq_true] at hdecodes
      have hm := hdecodes m hm
      simp only [CommandVisitor.onType, CommandVisitor.onMessage]
      by_cases htype : m.header.type = s.event.family.id
      · rw [if_pos htype, if_pos htype]
        simp only [htype, bne_self_eq_false, Bool.false_or] at hm
        cases hsplit : CommandHeader.split? m.payload with
        | none => simp [hsplit] at hm
        | some split =>
          simp only [hsplit] at hm
          cases hparse : AttrTable.parse split.2 with
          | error e => simp [hparse, Except.toOption] at hm
          | ok table => exact h.onCommand_of_parse y split.1.command hparse
      · rw [if_neg htype, if_neg htype]
    have hrun : Batch.run none (h.onCommand.onType s.event.family.id) x data =
        Batch.run none ((eventVisitor h.forward).onType s.event.family.id) x data :=
      Batch.runMessages_congr hmessage x
    simp only [hrun]

/-- When all notifications in the queue can be read, a dispatch to handlers is a dispatch to a
visitor of events. -/
theorem dispatch_eq_forward (mode : Mode) (h : Handlers σ β) {s : Session}
    (hdecodes : ∀ arrival ∈ s.event.socket.queue, s.decodes arrival = true) (x : σ) :
    dispatch mode h (s, x) = dispatchEvents mode h.forward (s, x) := by
  rw [dispatchEvents_eq_dispatch, dispatch_eq_pump, dispatch_eq_pump]
  have hpump := Socket.pump_congr (s := s.event.socket) mode
    (fun arrival harrival y => reactTo_eq_forward (hdecodes arrival harrival) mode h y) x
  rw [hpump]

/-- Handlers that both show their events to one visitor are that visitor. Of any handlers, the calls
are those that the events of a look call for, as long as no handler stops: the events that some
handler takes, in order, and a sample without a handler of its own as a change with the command
zero. The dispatch then ends as the look does. -/
theorem dispatch_routes_events (mode : Mode) :
    (∀ visit : Visitor Event σ β, dispatch mode (.ofEvents visit) = dispatchEvents mode visit) ∧
    ∀ (h : Handlers σ β) (s : Session) (x : σ),
      (∀ arrival ∈ s.event.socket.queue, s.decodes arrival = true) →
      let ran := dispatch mode h (s, x)
      let recorded := dispatch mode h.recording (s, (x, []))
      recorded.state.2.1 = ran.state.2 ∧ recorded.result = ran.result ∧
        recorded.state.2.2 <+: (s.look mode).state.2.filterMap h.take? ∧
        ((∀ value, ran.result ≠ .ok (.stop value)) →
          recorded.state.2.2 = (s.look mode).state.2.filterMap h.take? ∧
          ran.result = (s.look mode).result.map Flow.widen ∧
          ran.state.1.event.socket.queue = (s.look mode).state.1.event.socket.queue) := by
  refine ⟨fun visit => (dispatchEvents_eq_dispatch mode visit).symm, ?_⟩
  intro h s x hdecodes ran recorded
  obtain ⟨hstate, hresult, hqueue⟩ := dispatchEvents_along mode h.forward s x
  obtain ⟨hstate', hresult', -⟩ := dispatchEvents_along mode h.recording.forward s (x, [])
  obtain ⟨calls, halong, hprefix, hall⟩ :=
    h.along_forward_recording x [] (s.look mode).state.2
  rw [List.nil_append] at halong
  rw [← dispatch_eq_forward mode h hdecodes x] at hstate hresult hqueue
  rw [← dispatch_eq_forward mode h.recording hdecodes (x, []), halong] at hstate' hresult'
  refine ⟨by rw [hstate', hstate], by rw [hresult', hresult], by rwa [hstate'], ?_⟩
  intro hgoes
  have hproceed : (h.forward.along x (s.look mode).state.2).2 = .proceed := by
    cases hflow : (h.forward.along x (s.look mode).state.2).2 with
    | proceed => rfl
    | stop value =>
      rw [hflow] at hresult
      exact absurd hresult (hgoes value)
  refine ⟨by rw [hstate']; exact hall hproceed, ?_, hqueue hproceed⟩
  rw [hproceed] at hresult
  exact hresult

/-- A sample and a change to a group arrive in one datagram, behind a message of another family that
cannot be read, and then a receive fails. Handlers without one for samples take both as changes, the
sample with the command zero. -/
theorem dispatch_routes_events_without_sample_handler :
    let change : MessageBuilder := { type := 29, flags := 0 }
    let changed := ((change.appendCommand { command := 2, version := 1 }).attrU32 3 8).finish
    let foreign := (({ type := 30, flags := 0 } : MessageBuilder).append [1]).finish
    let s := withArrivals [.datagram (foreign ++ notification 7 ++ changed), .failure 105]
    let h : Handlers Unit Unit := { config := some fun x _ => (x, .proceed) }
    let ran := dispatch .nonBlocking h (s, ())
    let recorded := dispatch .nonBlocking h.recording (s, ((), []))
    (∀ arrival ∈ s.event.socket.queue, s.decodes arrival = true) ∧
      (∀ value, ran.result ≠ .ok (.stop value)) ∧
      recorded.state.2.2.map Event.record =
        [.config { code := 0, group := some 7 }, .config { code := 2, group := some 8 }] ∧
      recorded.state.2.2 = (s.look .nonBlocking).state.2.filterMap h.take? ∧
      ran.result = (s.look .nonBlocking).result.map Flow.widen ∧
      ran.result = .error (.os 105) := by
  intro change changed foreign s h ran recorded
  have hdecodes : ∀ arrival ∈ s.event.socket.queue, s.decodes arrival = true := by decide +kernel
  have hfailed : ran.result = .error (.os 105) := by decide +kernel
  have hgoes : ∀ value, ran.result ≠ .ok (.stop value) := by
    intro value
    rw [hfailed]
    simp
  obtain ⟨-, -, -, hcalls⟩ := (dispatch_routes_events .nonBlocking).2 h s () hdecodes
  obtain ⟨hall, hresult, -⟩ := hcalls hgoes
  exact ⟨hdecodes, hgoes, by decide +kernel, hall, hresult, hfailed⟩

end Session
end SampleTap
