import Mathlib.Data.List.TakeWhile
import SampleTap.Proofs.Stream.Conservation

/-!
# Handing the session back

A stream that is turned back into a session takes the events that it still has with it. What the
stream gave and what a visitor is shown later are all events of the arrivals but for these, and the
two are all events exactly when the stream had none left (`given_and_shown_of_intoSession`). That is
so when its last poll had nothing for now (`pending_of_last_poll`).

`Reading` is what happens to the session behind that: more may arrive, and its events are shown.
-/

namespace SampleTap
namespace Session

/-- The events that a dispatch shows a visitor that never stops. -/
def shownBy (mode : Mode) (s : Session) : List Event :=
  (dispatchEvents mode Event.gather (s, [])).state.2

/-- Something that happens to a session of which the events are read. -/
inductive Reading
  /-- Something arrives at the event connection. -/
  | arrive (items : List Arrival)
  | dispatch (mode : Mode)

namespace Reading

/-- What arrives. -/
def items : Reading → List Arrival
  | arrive items => items
  | dispatch _ => []

/-- The session behind it. -/
def after (s : Session) : Reading → Session
  | arrive items => s.withSocket (s.event.socket.deliver items)
  | dispatch mode => (dispatchEvents mode Event.gather (s, [])).state.1

/-- The events that are shown. -/
def shown (s : Session) : Reading → List Event
  | arrive _ => []
  | dispatch mode => s.shownBy mode

end Reading

/-- The session behind readings. -/
def afterReadings : List Reading → Session → Session
  | [], s => s
  | reading :: rest, s => afterReadings rest (reading.after s)

/-- The records of the events that readings show. -/
def shownRecords : List Reading → Session → List EventRecord
  | [], _ => []
  | reading :: rest, s => (reading.shown s).map Event.record ++ shownRecords rest (reading.after s)

/-- A dispatch takes arrivals off the front of the queue and shows their events. -/
theorem shownBy_eq (mode : Mode) (s : Session) :
    ∃ taken, s.event.socket.queue =
        taken ++ (Reading.after s (.dispatch mode)).event.socket.queue ∧
      (s.shownBy mode).map Event.record = s.recordsOf taken ∧
      (Reading.after s (.dispatch mode)).ReadsLike s := by
  have hgather : ∀ events event, (Event.gather events event).2 = .proceed := fun _ _ => rfl
  obtain ⟨taken, hqueue, hshown⟩ := dispatch_ofEvents hgather mode s []
  obtain ⟨left, hsession, -, hcapacity, -⟩ :=
    exists_socket_dispatch mode (.ofEvents Event.gather) s []
  refine ⟨taken, ?_, ?_, ?_⟩
  · rw [Reading.after, dispatchEvents_eq_dispatch]
    exact hqueue
  · have hevents : s.eventsIn = s.shown := funext fun arrival => (s.shown_eq_eventsIn arrival).symm
    rw [shownBy, dispatchEvents_eq_dispatch, hshown, hevents, recordsOf]
    simp only [Event.gather]
    rw [List.foldl_append_eq_append, ← List.flatMap_def, List.flatMap_singleton', List.nil_append]
  · rw [Reading.after, dispatchEvents_eq_dispatch, hsession]
    exact ⟨rfl, hcapacity⟩

/-- What readings take off the queue is the front of what was there and what arrived, and they show
its events. -/
theorem shownRecords_eq (readings : List Reading) (s : Session) :
    ∃ taken, taken ++ (afterReadings readings s).event.socket.queue =
        s.event.socket.queue ++ readings.flatMap Reading.items ∧
      shownRecords readings s = s.recordsOf taken := by
  induction readings generalizing s with
  | nil => exact ⟨[], (List.append_nil _).symm, rfl⟩
  | cons reading rest ih =>
    obtain ⟨later, hqueue, hlater⟩ := ih (reading.after s)
    cases reading with
    | arrive items =>
      have halike : (Reading.after s (.arrive items)).ReadsLike s := ⟨rfl, rfl⟩
      refine ⟨later, ?_, ?_⟩
      · rw [afterReadings, hqueue]
        exact List.append_assoc s.event.socket.queue items _
      · rw [shownRecords, hlater, halike.recordsOf]
        rfl
    | dispatch mode =>
      obtain ⟨taken, htaken, hshown, halike⟩ := s.shownBy_eq mode
      refine ⟨taken ++ later, ?_, ?_⟩
      · rw [afterReadings, List.append_assoc, hqueue, ← List.append_assoc, ← htaken]
        rfl
      · rw [shownRecords, hlater, Reading.shown, hshown, halike.recordsOf, recordsOf_append]

/-- When every datagram can be read to its end, one non-blocking dispatch empties the queue. -/
theorem dispatchEvents_of_readable {s : Session}
    (hfault : s.event.socket.faults s.event.socket.made .setMode = none)
    (hqueue : ∀ arrival ∈ s.event.socket.queue, s.endsLook arrival = false) :
    let ran := dispatchEvents .nonBlocking Event.gather (s, [])
    ran.result = .ok .proceed ∧ ran.state.1.event.socket.queue = [] := by
  intro ran
  have hran : ran = dispatch .nonBlocking (.ofEvents Event.gather) (s, []) := by
    rw [← dispatchEvents_eq_dispatch]
  have hgather : ∀ events event, (Event.gather events event).2 = .proceed := fun _ _ => rfl
  have hreadable : s.Readable s.event.socket.queue := fun arrival h => Or.inr (hqueue arrival h)
  have hall : s.event.socket.queue.dropWhile (fun arrival => !s.endsLook arrival) = [] := by
    rw [List.dropWhile_eq_nil_iff]
    exact fun arrival h => by simp [hqueue arrival h]
  rw [hran, queue_dispatch_ofEvents hgather]
  refine ⟨(dispatch_ofEvents_of_readable hgather [] hreadable hfault).1, ?_⟩
  simp only [leftBehind, hfault, hall, List.tail_nil]

end Session

namespace Stream

open Session (Reading afterReadings shownRecords)

/-- A stream whose last poll had nothing for now has no event left. -/
theorem pending_of_last_poll {t : Stream} {steps : List Step}
    (h : (next (run steps t)).result = .ok .pending) : (run (steps ++ [.poll]) t).pending = [] := by
  rw [run_append]
  exact (of_next_eq_pending h).1

/-- Behind a hand-over, what the stream had left is missing. When later dispatches have emptied the
queue, what the stream gave and what they showed are the events of all arrivals exactly when the
stream had none left. If every datagram can be read to its end, one dispatch empties the queue. -/
theorem given_and_shown_of_intoSession {s : Session} {steps : List Step}
    (hstart : (start s).result = .ok ()) :
    let t := run steps (start s).state
    let given := yielded steps (start s).state
    let queued := s.event.socket.queue ++ steps.flatMap Step.items
    (∀ readings, (afterReadings readings t.intoSession).event.socket.queue = [] →
      let all := s.recordsOf (queued ++ readings.flatMap Reading.items)
      let shown := shownRecords readings t.intoSession
      given ++ t.pending ++ shown = all ∧ (given ++ shown = all ↔ t.pending = [])) ∧
    ((∀ arrival ∈ queued, s.endsLook arrival = false) →
      t.socket.faults t.socket.made .setMode = none →
      let ran := Session.dispatchEvents .nonBlocking Event.gather (t.intoSession, [])
      ran.result = .ok .proceed ∧ ran.state.1.event.socket.queue = []) := by
  intro t given queued
  obtain ⟨hpending, hqueue, hsession⟩ := pending_start hstart
  obtain ⟨taken, htaken, hevents, hrun⟩ := took_run steps (start s).state
  have halike : t.intoSession.ReadsLike s := hrun.trans hsession
  rw [hqueue] at htaken
  rw [hpending, List.nil_append, hsession.recordsOf] at hevents
  refine ⟨fun readings hempty => ?_, fun hreadable hfault => ?_⟩
  · intro all shown
    obtain ⟨later, hlater, hshown⟩ := Session.shownRecords_eq readings t.intoSession
    rw [hempty, List.append_nil] at hlater
    have hall : given ++ t.pending ++ shown = all := by
      calc given ++ t.pending ++ shown
          = s.recordsOf taken ++ s.recordsOf later := by
            rw [← halike.recordsOf later]
            exact congrArg₂ (· ++ ·) hevents hshown
        _ = s.recordsOf (taken ++ (t.socket.queue ++ readings.flatMap Reading.items)) := by
            rw [← Session.recordsOf_append, hlater]
            rfl
        _ = all := by rw [← List.append_assoc, htaken]
    refine ⟨hall, fun hwhole => ?_, fun hnone => ?_⟩
    · -- Without the events that were left the list is as long only if there are none.
      have hlength := congrArg List.length (hall.trans hwhole.symm)
      simp only [List.length_append] at hlength
      exact List.eq_nil_of_length_eq_zero (by omega)
    · rw [← hall, hnone, List.append_nil]
  · refine Session.dispatchEvents_of_readable hfault fun arrival harrival => ?_
    have hqueued : arrival ∈ queued := by
      show arrival ∈ s.event.socket.queue ++ steps.flatMap Step.items
      rw [← htaken]
      exact List.mem_append_right taken harrival
    rw [halike.endsLook]
    exact hreadable arrival hqueued

/-- Two of three samples were given. -/
theorem given_and_shown_of_intoSession_two_polls :
    let s := Session.withArrivals [.datagram (notification 7)]
    let steps := [.poll, .arrive [.datagram (notification 8), .datagram (notification 9)], .poll]
    (start s).result = .ok () ∧
      (let t := run steps (start s).state
       let given := yielded steps (start s).state
       let queued := s.event.socket.queue ++ steps.flatMap Step.items
       (∀ readings, (afterReadings readings t.intoSession).event.socket.queue = [] →
          let all := s.recordsOf (queued ++ readings.flatMap Reading.items)
          let shown := shownRecords readings t.intoSession
          given ++ t.pending ++ shown = all ∧ (given ++ shown = all ↔ t.pending = [])) ∧
        ((∀ arrival ∈ queued, s.endsLook arrival = false) →
          t.socket.faults t.socket.made .setMode = none →
          let ran := Session.dispatchEvents .nonBlocking Event.gather (t.intoSession, [])
          ran.result = .ok .proceed ∧ ran.state.1.event.socket.queue = [])) :=
  ⟨rfl, given_and_shown_of_intoSession rfl⟩

/-- A session that is handed back between two samples of one look never shows the second. -/
theorem intoSession_loses_waiting_sample :
    ∃ s, (Session.assemble (Session.groupNames true true)
        (Connection.accept Session.samplingPeer) (Connection.accept Session.samplingPeer)).result =
        .ok s ∧
      let arrivals := [.datagram (notification 7), .datagram (notification 8)]
      let steps := [.arrive arrivals, .poll]
      let t := run steps (start s).state
      let later := t.intoSession.shownBy .nonBlocking
      (start s).result = .ok () ∧ (∀ arrival ∈ arrivals, s.endsLook arrival = false) ∧
        yielded steps (start s).state = [.sample { group := some 7 }] ∧ later = [] ∧
        t.intoSession.event.socket.queue = [] ∧
        s.recordsOf arrivals = [.sample { group := some 7 }, .sample { group := some 8 }] := by
  refine ⟨_, rfl, ?_⟩
  decide +kernel

end Stream
end SampleTap
