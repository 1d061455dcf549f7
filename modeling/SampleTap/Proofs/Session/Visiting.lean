import SampleTap.Proofs.Session.Events

/-!
# Visitors that may stop

The events of a dispatch do not depend on who looks at them: they are what the visitor is told that
keeps every event and never stops. Any other visitor is told the same events in the same order, up
to the one at which it stops (`dispatchEvents_along`). When it does not stop, the dispatch ends as
it would without a visitor, with the same result and the same queue.
-/

namespace SampleTap

variable {σ β : Type}

theorem Flow.map_widen_widen (r : Except Error (Flow Empty)) :
    ((r.map widen : Except Error (Flow Empty)).map widen : Except Error (Flow β)) =
      r.map widen := by
  rcases r with e | _ | value
  · rfl
  · rfl
  · exact value.elim

namespace Session

variable {visit : Visitor Event σ β}

/-- A turn asks for another only when it would without a visitor. -/
theorem settle_ne_again (flow : Flow β) {ending : Except Error (Socket.Turn Empty)}
    (h : ending ≠ .ok .again) :
    flow.settle (fun value => Socket.Turn.over (.stop value)) (ending.map Socket.Turn.widen) ≠
      .ok .again := by
  cases flow with
  | stop value => simp [Flow.settle]
  | proceed =>
    rcases ending with e | _ | flow
    · simp [Flow.settle, Except.map]
    · exact absurd rfl h
    · simp [Flow.settle, Except.map, Socket.Turn.widen]

/-- Settling a turn and settling its flow come to the same. -/
theorem map_flow_settle (flow : Flow β) (ending : Except Error (Socket.Turn Empty)) :
    (flow.settle (fun value => Socket.Turn.over (.stop value))
        (ending.map Socket.Turn.widen)).map Socket.Turn.flow =
      flow.settle .stop ((ending.map Socket.Turn.flow).map Flow.widen) := by
  cases flow with
  | stop value => rfl
  | proceed => rcases ending with e | _ | flow <;> rfl

/-! ## Queues -/

/-- The events that a pass over a queue has to tell: those of the arrivals up to the first that does
not ask for another. -/
def eventsAlong (s : Session) : List Arrival → List Event
  | [] => []
  | arrival :: rest =>
    s.eventsIn arrival ++
      match (s.reactTo .nonBlocking (.ofEvents Event.lookOn) () arrival).2 with
      | .ok .again => s.eventsAlong rest
      | _ => []

theorem eventsAlong_cons_of_again {s : Session} {arrival : Arrival} (rest : List Arrival)
    (h : (s.reactTo .nonBlocking (.ofEvents Event.lookOn) () arrival).2 = .ok .again) :
    s.eventsAlong (arrival :: rest) = s.eventsIn arrival ++ s.eventsAlong rest := by
  simp only [eventsAlong, h]

/-- A pass that ends at an arrival hands over its events and no others. -/
theorem eventsAlong_cons_of_ne_again {s : Session} {arrival : Arrival} (rest : List Arrival)
    (h : (s.reactTo .nonBlocking (.ofEvents Event.lookOn) () arrival).2 ≠ .ok .again) :
    s.eventsAlong (arrival :: rest) = s.eventsIn arrival := by
  rw [eventsAlong]
  rcases hending : (s.reactTo .nonBlocking (.ofEvents Event.lookOn) () arrival).2 with e | _ | flow
  · exact List.append_nil _
  · exact absurd hending h
  · exact List.append_nil _

/-- A pass tells a visitor its events in order, and ends as it would without a visitor when that one
does not stop. -/
theorem passOver_along (visit : Visitor Event σ β) (s : Session) (x : σ) (queue : List Arrival) :
    let told := visit.along x (s.eventsAlong queue)
    let looked := s.passOver (.ofEvents Event.lookOn) () queue
    let passed := s.passOver (.ofEvents visit) x queue
    passed.state = told.1 ∧ passed.result = told.2.settle .stop (looked.result.map Flow.widen) ∧
      (told.2 = .proceed → passed.unread = looked.unread) := by
  induction queue generalizing x with
  | nil => exact ⟨rfl, rfl, fun _ => rfl⟩
  | cons arrival rest ih =>
    intro told looked passed
    have hreact := reactTo_along visit s .nonBlocking x arrival
    by_cases hagain : (s.reactTo .nonBlocking (.ofEvents Event.lookOn) () arrival).2 = .ok .again
    · have htold : told = visit.along x (s.eventsIn arrival ++ s.eventsAlong rest) :=
        congrArg (visit.along x) (eventsAlong_cons_of_again rest hagain)
      have hlooked : looked = s.passOver (.ofEvents Event.lookOn) () rest :=
        passOver_cons_of_again rest hagain
      rw [Visitor.along_append] at htold
      rw [hagain] at hreact
      rcases hfirst : visit.along x (s.eventsIn arrival) with ⟨y, _ | value⟩
      · rw [hfirst] at hreact htold
        have hpassed : passed = s.passOver (.ofEvents visit) y rest := by
          have hgo := passOver_cons_of_again rest (congrArg Prod.snd hreact)
          rwa [congrArg Prod.fst hreact] at hgo
        rw [hpassed, hlooked, htold]
        exact ih y
      · rw [hfirst] at hreact htold
        have hstop : (s.reactTo .nonBlocking (.ofEvents visit) x arrival).2 ≠ .ok .again := by
          rw [hreact]
          simp [Flow.settle]
        have hpassed : passed = ⟨y, rest, .ok (.stop value)⟩ := by
          have hend := passOver_cons_of_ne_again rest hstop
          rwa [hreact] at hend
        rw [hpassed, htold]
        exact ⟨rfl, rfl, by simp⟩
    · have htold : told = visit.along x (s.eventsIn arrival) :=
        congrArg (visit.along x) (eventsAlong_cons_of_ne_again rest hagain)
      have hlooked : looked = ⟨(), rest, (s.reactTo .nonBlocking (.ofEvents Event.lookOn) ()
          arrival).2.map Socket.Turn.flow⟩ := passOver_cons_of_ne_again rest hagain
      have hstop : (s.reactTo .nonBlocking (.ofEvents visit) x arrival).2 ≠ .ok .again := by
        rw [hreact]
        exact settle_ne_again _ hagain
      have hpassed : passed = ⟨_, rest, _⟩ := passOver_cons_of_ne_again rest hstop
      rw [hpassed, hlooked, htold, hreact]
      exact ⟨rfl, map_flow_settle _ _, fun _ => rfl⟩

/-! ## Dispatches -/

/-- What a dispatch tells, how it ends when no visitor stops it, and what it then leaves in the
queue, are the same for all visitors. -/
theorem exists_events_dispatch (mode : Mode) (s : Session) :
    ∃ (events : List Event) (ending : Except Error (Flow Empty)) (left : List Arrival),
      ∀ {σ β : Type} (visit : Visitor Event σ β) (x : σ),
        let told := visit.along x events
        let ran := dispatch mode (.ofEvents visit) (s, x)
        ran.state.2 = told.1 ∧ ran.result = told.2.settle .stop (ending.map Flow.widen) ∧
          (told.2 = .proceed → ran.state.1.event.socket.queue = left) := by
  cases hfault : s.event.socket.faults s.event.socket.made .setMode with
  | some errno =>
    refine ⟨[], .error (.os errno), s.event.socket.queue, fun visit x => ?_⟩
    obtain ⟨hstate, hresult⟩ := dispatch_error mode (.ofEvents visit) x hfault
    dsimp only
    rw [hstate, hresult]
    exact ⟨rfl, rfl, fun _ => rfl⟩
  | none =>
    cases mode with
    | nonBlocking =>
      let looked := s.passOver (.ofEvents Event.lookOn) () s.event.socket.queue
      refine ⟨s.eventsAlong s.event.socket.queue, looked.result, looked.unread, fun visit x => ?_⟩
      obtain ⟨_, hstate, hresult⟩ := dispatch_nonBlocking (.ofEvents visit) x hfault
      dsimp only
      rw [hstate, hresult]
      exact passOver_along visit s x s.event.socket.queue
    | blocking =>
      cases hqueue : s.event.socket.queue with
      | nil =>
        refine ⟨[], .error (.os Errno.wouldBlock), [], fun visit x => ?_⟩
        obtain ⟨hstate, hresult⟩ := dispatch_blocking_nil (.ofEvents visit) x hfault hqueue
        dsimp only
        rw [hstate, hresult]
        exact ⟨rfl, rfl, fun _ => hqueue⟩
      | cons arrival rest =>
        let looked := (s.reactTo .blocking (.ofEvents Event.lookOn) () arrival).2
        refine ⟨s.eventsIn arrival, looked.map Socket.Turn.flow, rest, fun visit x => ?_⟩
        obtain ⟨hstate, hresult⟩ := dispatch_blocking_cons (.ofEvents visit) x hfault hqueue
        dsimp only
        rw [hstate, hresult, reactTo_along]
        exact ⟨rfl, map_flow_settle _ _, fun _ => rfl⟩

/-- A dispatch to the visitor that keeps every event. -/
def look (mode : Mode) (s : Session) : Ran Effect (Session × List Event) (Flow Empty) :=
  dispatchEvents mode Event.gather (s, [])

/-- A dispatch tells a visitor the events that a look finds, in order, until it stops. When it does
not stop, the dispatch ends as the look does. -/
theorem dispatchEvents_along (mode : Mode) (visit : Visitor Event σ β) (s : Session) (x : σ) :
    let told := visit.along x (s.look mode).state.2
    let ran := dispatchEvents mode visit (s, x)
    ran.state.2 = told.1 ∧
      ran.result = told.2.settle .stop ((s.look mode).result.map Flow.widen) ∧
      (told.2 = .proceed →
        ran.state.1.event.socket.queue = (s.look mode).state.1.event.socket.queue) := by
  obtain ⟨events, ending, left, hdispatch⟩ := exists_events_dispatch mode s
  -- A look is told all of the events, and nothing stops it.
  have hlook := hdispatch Event.gather []
  rw [Event.along_gather, List.nil_append] at hlook
  obtain ⟨hstate, hresult, hleft⟩ := hlook
  rw [look, dispatchEvents_eq_dispatch, dispatchEvents_eq_dispatch, hstate, hresult, hleft rfl]
  have hwiden := Flow.map_widen_widen (β := β) ending
  simp only [Flow.settle, hwiden]
  exact hdispatch visit x

end Session
end SampleTap
