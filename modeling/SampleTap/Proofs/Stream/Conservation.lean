import SampleTap.Proofs.Session.Events
import SampleTap.Proofs.Stream.Stall

/-!
# The events that a stream gives

A stream loses no event, gives none twice and keeps their order: whatever fails on the way, the
events that it gave and those that it still has are together the events of the arrivals that it took
off the queue (`yielded_append_pending`).

`Took` is one part of a run: which arrivals were taken and which events given. A look takes
arrivals and gives nothing (`took_collect`), a poll takes some and gives at most one event
(`took_next`).
-/

namespace SampleTap

/-- The records of the events that a visitor of events is shown because of arrivals, in order. -/
def Session.recordsOf (s : Session) (arrivals : List Arrival) : List EventRecord :=
  (arrivals.flatMap s.shown).map Event.record

theorem Session.recordsOf_append (s : Session) (arrivals arrivals' : List Arrival) :
    s.recordsOf (arrivals ++ arrivals') = s.recordsOf arrivals ++ s.recordsOf arrivals' := by
  rw [recordsOf, List.flatMap_append, List.map_append]
  rfl

/-- Sessions that read alike find the same records in arrivals. -/
theorem Session.ReadsLike.recordsOf {s s' : Session} (h : s'.ReadsLike s)
    (arrivals : List Arrival) : s'.recordsOf arrivals = s.recordsOf arrivals := by
  rw [Session.recordsOf, h.shown, Session.recordsOf]

theorem Session.ReadsLike.endsLook {s s' : Session} (h : s'.ReadsLike s) :
    s'.endsLook = s.endsLook := by
  funext arrival
  simp only [Session.endsLook, h.family, h.capacity]

namespace Stream

/-! ## Parts of a run -/

/-- How a stream got from `t` to `t'`: it took arrivals off the front of its queue, and gave events
off the front of those that it had and those that it found in the arrivals. -/
structure Took (t : Stream) (taken : List Arrival) (given : List EventRecord) (t' : Stream) :
    Prop where
  queue : t.socket.queue = taken ++ t'.socket.queue
  events : given ++ t'.pending = t.pending ++ t.session.recordsOf taken
  session : t'.session.ReadsLike t.session

theorem Took.refl (t : Stream) : Took t [] [] t :=
  ⟨rfl, (List.append_nil _).symm, .refl t.session⟩

theorem Took.trans {t t' t'' : Stream} {taken taken' : List Arrival}
    {given given' : List EventRecord} (h : Took t taken given t')
    (h' : Took t' taken' given' t'') : Took t (taken ++ taken') (given ++ given') t'' := by
  refine ⟨?_, ?_, h'.session.trans h.session⟩
  · rw [h.queue, h'.queue, List.append_assoc]
  · calc given ++ given' ++ t''.pending
        = given ++ (t'.pending ++ t'.session.recordsOf taken') := by
          rw [List.append_assoc, h'.events]
      _ = t.pending ++ t.session.recordsOf taken ++ t.session.recordsOf taken' := by
          rw [← List.append_assoc, h.events, h.session.recordsOf]
      _ = t.pending ++ t.session.recordsOf (taken ++ taken') := by
          rw [List.append_assoc, Session.recordsOf_append]

/-- A look takes arrivals and keeps their events behind those that the stream had, also when it
fails. -/
theorem took_collect (t : Stream) : ∃ taken, Took t taken [] (collect t).state := by
  obtain ⟨taken, hqueue, hstate⟩ :=
    Session.dispatch_ofEvents keep_proceeds .nonBlocking (markReady false t.session) t.pending
  obtain ⟨left, hsession, -, hcapacity, -⟩ :=
    Session.exists_socket_dispatch .nonBlocking (.ofEvents keep) (markReady false t.session)
      t.pending
  have hunready : (markReady false t.session).ReadsLike t.session := ⟨rfl, rfl⟩
  have hlooked : (collect t).state.session.ReadsLike t.session := by
    rw [state_collect, hsession]
    exact ⟨rfl, hcapacity⟩
  refine ⟨taken, ?_, ?_, hlooked⟩
  · rw [socket, socket, state_collect]
    exact hqueue
  · have hpending : (collect t).state.pending =
        (Session.dispatch .nonBlocking (.ofEvents keep)
          (markReady false t.session, t.pending)).state.2 := by
      rw [← Session.dispatchEvents_eq_dispatch]
      rfl
    have hevents : (markReady false t.session).eventsIn = t.session.shown := by
      rw [hunready.eventsIn]
      exact funext fun arrival => (Session.shown_eq_eventsIn _ arrival).symm
    rw [hpending, hstate, List.nil_append, hevents, Session.recordsOf]
    simp only [keep]
    rw [List.foldl_append_eq_append, ← List.flatMap_def, List.map_eq_flatMap]

/-- The event that a poll gives, if any. -/
def given (t : Stream) : List EventRecord :=
  match (next t).result with
  | .ok (.event record) => [record]
  | _ => []

/-- A poll takes arrivals and gives at most one event. -/
theorem took_next (t : Stream) : ∃ taken, Took t taken t.given (next t).state := by
  rw [given]
  fun_induction next t with
  | case1 t event rest hpending =>
    refine ⟨[], rfl, ?_, ⟨rfl, rfl⟩⟩
    show [event] ++ rest = t.pending ++ t.session.recordsOf []
    rw [hpending]
    exact (List.append_nil _).symm
  | case2 t hpending hready collected e herror => exact took_collect t
  | case3 t hpending hready collected hok hlt ih =>
    obtain ⟨taken, hlook⟩ := took_collect t
    obtain ⟨taken', hrest⟩ := ih
    exact ⟨taken ++ taken', hlook.trans hrest⟩
  | case4 t hpending hready => exact ⟨[], Took.refl t⟩

/-! ## Runs -/

namespace Step

/-- What arrives in a step. -/
def items : Step → List Arrival
  | arrive items => items
  | poll => []

/-- The events that a step gives. -/
def given (t : Stream) : Step → List EventRecord
  | arrive _ => []
  | poll => t.given

end Step

/-- The events that a run gives. -/
def yielded : List Step → Stream → List EventRecord
  | [], _ => []
  | step :: rest, t => step.given t ++ yielded rest (step.after t)

/-- What a run takes off the queue is the front of what was there and what arrived. -/
theorem took_run (steps : List Step) (t : Stream) :
    ∃ taken, taken ++ (run steps t).socket.queue = t.socket.queue ++ steps.flatMap Step.items ∧
      yielded steps t ++ (run steps t).pending = t.pending ++ t.session.recordsOf taken ∧
      (run steps t).session.ReadsLike t.session := by
  induction steps generalizing t with
  | nil => exact ⟨[], (List.append_nil _).symm, (List.append_nil _).symm, .refl t.session⟩
  | cons step rest ih =>
    obtain ⟨later, hqueue, hevents, hrun⟩ := ih (step.after t)
    cases step with
    | arrive items =>
      have hstep : (Step.after t (.arrive items)).session.ReadsLike t.session := ⟨rfl, rfl⟩
      refine ⟨later, hqueue.trans ?_, hevents.trans ?_, hrun.trans hstep⟩
      · exact List.append_assoc t.socket.queue items _
      · rw [hstep.recordsOf]
        rfl
    | poll =>
      obtain ⟨taken, hpoll⟩ := took_next t
      refine ⟨taken ++ later, ?_, ?_, hrun.trans hpoll.session⟩
      · calc taken ++ later ++ (run rest (next t).state).socket.queue
            = taken ++ ((next t).state.socket.queue ++ rest.flatMap Step.items) := by
              rw [List.append_assoc]
              exact congrArg (taken ++ ·) hqueue
          _ = t.socket.queue ++ rest.flatMap Step.items := by
              rw [← List.append_assoc, ← hpoll.queue]
      · calc t.given ++ yielded rest (next t).state ++ (run rest (next t).state).pending
            = t.given ++ (next t).state.pending ++ (next t).state.session.recordsOf later := by
              rw [List.append_assoc, List.append_assoc]
              exact congrArg (t.given ++ ·) hevents
          _ = t.pending ++ t.session.recordsOf (taken ++ later) := by
              rw [hpoll.events, hpoll.session.recordsOf, List.append_assoc,
                Session.recordsOf_append]

/-- A new stream has no event yet, and the queue of its session. -/
theorem pending_start {s : Session} (h : (start s).result = .ok ()) :
    (start s).state.pending = [] ∧ (start s).state.socket.queue = s.event.socket.queue ∧
      (start s).state.session.ReadsLike s := by
  rw [start_ok h]
  exact ⟨rfl, rfl, rfl, rfl⟩

/-- Whatever arrives and whatever fails, the events that a stream gave and those that it still has
are the events of the arrivals that it took off the queue, each once and in order. Of a datagram
that cannot be read to its end these are the events in front of the message that ends it. -/
theorem yielded_append_pending {s : Session} {steps : List Step}
    (hstart : (start s).result = .ok ()) :
    let t := run steps (start s).state
    ∃ taken, taken ++ t.socket.queue = s.event.socket.queue ++ steps.flatMap Step.items ∧
      yielded steps (start s).state ++ t.pending = s.recordsOf taken ∧
      ∀ arrival ∈ taken, s.shown arrival = s.eventsIn arrival := by
  obtain ⟨hpending, hqueue, hsession⟩ := pending_start hstart
  obtain ⟨taken, htaken, hevents, -⟩ := took_run steps (start s).state
  rw [hqueue] at htaken
  rw [hpending, List.nil_append, hsession.recordsOf] at hevents
  exact ⟨taken, htaken, hevents, fun arrival _ => Session.shown_eq_eventsIn s arrival⟩

/-- A run over a failed receive, a datagram that is cut off behind a sample, and a look that cannot
switch modes. -/
theorem yielded_append_pending_failures :
    let s := (Session.withArrivals []).withSocket
      { faults := fun n op => if n = 2 ∧ op = .setMode then some 5 else none }
    let steps := [.arrive [.datagram (notification 7), .failure 105], .poll, .poll, .poll,
      .arrive [.datagram (notification 8 ++ cutNotification)], .poll, .arrive [.pause], .poll]
    (start s).result = .ok () ∧
      (let t := run steps (start s).state
       ∃ taken, taken ++ t.socket.queue = s.event.socket.queue ++ steps.flatMap Step.items ∧
        yielded steps (start s).state ++ t.pending = s.recordsOf taken ∧
        ∀ arrival ∈ taken, s.shown arrival = s.eventsIn arrival) :=
  ⟨rfl, yielded_append_pending rfl⟩

end Stream
end SampleTap
