import Mathlib.Control.Monad.Basic
import SampleTap.Proofs.Stream.Conservation

/-!
# When a stream reports a failure

A look finds events and may then fail. The stream reports the failure at once, and the events that
the same look found in front of it wait for the polls behind. So when a failure is reported, what
was given are the events of the arrivals in front of the look, and the events in front of the
failure have all been given exactly when the look found none (`yielded_of_next_eq_error`).
-/

namespace SampleTap

variable {σ τ β : Type}

/-! ## What a look reports -/

namespace Session

/-- The failure that a dispatch to a visitor of events reports because of an arrival. -/
def faultIn (s : Session) (arrival : Arrival) : Option Error :=
  match (s.lookAt arrival).result with
  | .error e => some e
  | .ok _ => none

theorem ReadsLike.faultIn {s s' : Session} (h : s'.ReadsLike s) : s'.faultIn = s.faultIn := by
  funext arrival
  rw [Session.faultIn, Session.faultIn, (s'.lookAt_eq arrival).2, (s.lookAt_eq arrival).2,
    h.reactTo]

/-- An arrival at which a non-blocking look fails is reported with the same failure when it is
alone. -/
theorem faultIn_of_reactTo {visit : Visitor Event σ Empty}
    (hvisit : ∀ x event, (visit x event).2 = .proceed) {s : Session} {x : σ} {arrival : Arrival}
    {e : Error} (h : (s.reactTo .nonBlocking (.ofEvents visit) x arrival).2 = .error e) :
    s.faultIn arrival = some e := by
  have halike : (eventVisitor visit).Alike (eventVisitor Event.gather) :=
    alike_eventVisitor hvisit fun _ _ => rfl
  have hblocking : (s.reactTo .blocking (.ofEvents Event.gather) [] arrival).2 = .error e := by
    simp only [reactTo, Socket.reaction, Handlers.onCommand_ofEvents] at h ⊢
    cases hread : Socket.read s.event.socket.capacity arrival with
    | error e' =>
      -- Only a receive that would block is no failure of a non-blocking look.
      by_cases hblocks : e'.isWouldBlock
      · simp [hread, hblocks] at h
      · simpa [hread, hblocks] using h
    | ok data =>
      by_cases hempty : data.isEmpty
      · simp [hread, hempty] at h
      · have hrun := halike.run s.event.family.id none x [] data
        simp only [hread, hempty, Bool.false_eq_true, if_false] at h ⊢
        generalize Batch.run none ((eventVisitor visit).onType s.event.family.id) x data = ran at *
        generalize Batch.run none ((eventVisitor Event.gather).onType s.event.family.id) [] data =
          ran' at *
        obtain ⟨y, answer⟩ := ran
        obtain ⟨y', answer'⟩ := ran'
        obtain rfl : answer = answer' := hrun
        rcases answer with e' | _ | _ | value <;> simp_all
  rw [faultIn, (s.lookAt_eq arrival).2, hblocking]
  rfl

/-- A pass that fails does so at the last arrival that it takes. -/
theorem passOver_eq_error {h : Handlers σ β} {s : Session} {x : σ} {queue : List Arrival}
    {e : Error} (herror : (s.passOver h x queue).result = .error e) :
    ∃ before last y, queue = before ++ last :: (s.passOver h x queue).unread ∧
      (s.reactTo .nonBlocking h y last).2 = .error e := by
  induction queue generalizing x with
  | nil => simp [passOver, Socket.pass] at herror
  | cons arrival rest ih =>
    by_cases hagain : (s.reactTo .nonBlocking h x arrival).2 = .ok .again
    · rw [passOver_cons_of_again rest hagain] at herror ⊢
      obtain ⟨before, last, y, hqueue, hlast⟩ := ih herror
      exact ⟨arrival :: before, last, y, congrArg (arrival :: ·) hqueue, hlast⟩
    · rw [passOver_cons_of_ne_again rest hagain] at herror ⊢
      refine ⟨[], arrival, x, rfl, ?_⟩
      rcases hanswer : (s.reactTo .nonBlocking h x arrival).2 with e' | turn
      · simpa [hanswer, Except.map] using herror
      · simp [hanswer, Except.map] at herror

/-- A non-blocking dispatch fails at the last arrival that it takes, or because it cannot switch
modes. -/
theorem dispatch_nonBlocking_eq_error {h : Handlers σ β} {s : Session} {x : σ} {e : Error}
    (herror : (dispatch .nonBlocking h (s, x)).result = .error e) :
    (∃ before last y, s.event.socket.queue =
        before ++ last :: (dispatch .nonBlocking h (s, x)).state.1.event.socket.queue ∧
      (s.reactTo .nonBlocking h y last).2 = .error e) ∨
    ∃ errno, s.event.socket.faults s.event.socket.made .setMode = some errno ∧ e = .os errno ∧
      (dispatch .nonBlocking h (s, x)).state.1 =
        s.withSocket { s.event.socket with made := s.event.socket.made + 1 } := by
  cases hfault : s.event.socket.faults s.event.socket.made .setMode with
  | some errno =>
    obtain ⟨hstate, hresult⟩ := dispatch_error .nonBlocking h x hfault
    rw [hresult] at herror
    exact Or.inr ⟨errno, rfl, (Except.error.inj herror).symm, congrArg Prod.fst hstate⟩
  | none =>
    obtain ⟨_, hstate, hresult⟩ := dispatch_nonBlocking h x hfault
    rw [hresult] at herror
    obtain ⟨before, last, y, hqueue, hlast⟩ := passOver_eq_error herror
    refine Or.inl ⟨before, last, y, ?_, hlast⟩
    rw [hstate]
    exact hqueue

end Session

namespace Stream

/-! ## Looks that fail -/

/-- What a stream behind a failed look reports: the failure of the last arrival that was taken, or
that of the connection to switch modes, which was its last call. -/
def Reports (t : Stream) (taken : List Arrival) (e : Error) : Prop :=
  (∃ before last, taken = before ++ [last] ∧ t.session.faultIn last = some e) ∨
    ∃ n errno, t.socket.made = n + 1 ∧ t.socket.faults n .setMode = some errno ∧ e = .os errno

theorem Reports.append {t : Stream} {taken : List Arrival} {e : Error} (h : t.Reports taken e)
    (earlier : List Arrival) : t.Reports (earlier ++ taken) e := by
  rcases h with ⟨before, last, rfl, hlast⟩ | hswitch
  · exact Or.inl ⟨earlier ++ before, last, (List.append_assoc ..).symm, hlast⟩
  · exact Or.inr hswitch

theorem result_collect (t : Stream) :
    (collect t).result = (Session.dispatch .nonBlocking (.ofEvents keep)
      (markReady false t.session, t.pending)).result.map fun _ => () := by
  rw [← Session.dispatchEvents_eq_dispatch]
  rfl

/-- A look that fails reports the failure at which it ended. -/
theorem reports_collect {t : Stream} {taken : List Arrival} {e : Error}
    (htook : Took t taken [] (collect t).state) (herror : (collect t).result = .error e) :
    (collect t).state.Reports taken e := by
  have hlook : (Session.dispatch .nonBlocking (.ofEvents keep)
      (markReady false t.session, t.pending)).result = .error e := by
    rw [result_collect] at herror
    cases hresult : (Session.dispatch .nonBlocking (.ofEvents keep)
      (markReady false t.session, t.pending)).result with
    | error e' => simpa [hresult, Except.map] using herror
    | ok flow => simp [hresult, Except.map] at herror
  rcases Session.dispatch_nonBlocking_eq_error hlook with
    ⟨before, last, y, hqueue, hlast⟩ | ⟨errno, hfault, he, hstate⟩
  · left
    refine ⟨before, last, ?_, ?_⟩
    -- Both tell what was taken by what is left.
    · have htaken := htook.queue
      rw [socket, socket, state_collect] at htaken
      refine List.append_cancel_right (htaken.symm.trans (hqueue.trans ?_))
      rw [List.append_assoc, List.singleton_append]
    · have hunready : (markReady false t.session).ReadsLike t.session := ⟨rfl, rfl⟩
      rw [htook.session.faultIn, ← hunready.faultIn]
      exact Session.faultIn_of_reactTo keep_proceeds hlast
  · right
    refine ⟨t.socket.made, errno, ?_, ?_, he⟩
    · rw [socket, state_collect, hstate]
      rfl
    · rw [socket, state_collect, hstate]
      exact hfault

/-- A poll that reports a failure had no event to give. It leaves the events of the arrivals that it
took, which are in front of the failure, to the polls behind. -/
theorem of_next_eq_error {t : Stream} {e : Error} (herror : (next t).result = .error e) :
    t.pending = [] ∧ ∃ looked, Took t looked [] (next t).state ∧
      (next t).state.Reports looked e := by
  fun_induction next t with
  | case1 t event rest hpending => simp at herror
  | case2 t hpending hready collected e' herror' =>
    obtain rfl : e' = e := Except.error.inj herror
    obtain ⟨looked, htook⟩ := took_collect t
    exact ⟨hpending, looked, htook, reports_collect htook herror'⟩
  | case3 t hpending hready collected hok hlt ih =>
    obtain ⟨hnone, looked, htook, hreports⟩ := ih herror
    obtain ⟨found, hfound⟩ := took_collect t
    exact ⟨hpending, found ++ looked, hfound.trans htook, hreports.append found⟩
  | case4 t hpending hready => simp at herror

/-! ## Failures in a run -/

/-- When a poll reports a failure, what the run gave are the events of the arrivals that it took
before that poll. The events that the poll found in front of the failure are still waiting. So all
events in front of the failure have been given exactly when the poll found none. -/
theorem yielded_of_next_eq_error {s : Session} {steps : List Step} {e : Error}
    (hstart : (start s).result = .ok ())
    (herror : (next (run steps (start s).state)).result = .error e) :
    let t := run steps (start s).state
    ∃ earlier looked,
      earlier ++ looked ++ (next t).state.socket.queue =
        s.event.socket.queue ++ steps.flatMap Step.items ∧
      (next t).state.Reports looked e ∧
      yielded steps (start s).state = s.recordsOf earlier ∧
      (next t).state.pending = s.recordsOf looked ∧
      (yielded steps (start s).state = s.recordsOf (earlier ++ looked) ↔
        ∀ arrival ∈ looked, s.shown arrival = []) := by
  obtain ⟨hpending, hqueue, hsession⟩ := pending_start hstart
  obtain ⟨earlier, hearlier, hevents, hrun⟩ := took_run steps (start s).state
  obtain ⟨hnone, looked, hlook, hreports⟩ := of_next_eq_error herror
  have hyielded : yielded steps (start s).state = s.recordsOf earlier := by
    rw [hnone, List.append_nil, hpending, List.nil_append, hsession.recordsOf] at hevents
    exact hevents
  have hwaiting : (next (run steps (start s).state)).state.pending = s.recordsOf looked := by
    have hfound := hlook.events
    rw [hnone, List.nil_append, List.nil_append, (hrun.trans hsession).recordsOf] at hfound
    exact hfound
  refine ⟨earlier, looked, ?_, hreports, hyielded, hwaiting, ?_⟩
  · rw [List.append_assoc, ← hlook.queue, hearlier, hqueue]
  · rw [hyielded, Session.recordsOf_append, List.self_eq_append_right, Session.recordsOf,
      List.map_eq_nil_iff, List.flatMap_eq_nil_iff]

/-- A datagram that is cut off behind a sample that was read. -/
theorem yielded_of_next_eq_error_cut :
    let s := Session.withArrivals []
    let steps := [.arrive [.datagram (notification 7)], .poll,
      .arrive [.datagram (notification 8), .datagram (notification 9 ++ cutNotification)]]
    let e := .invalidMessage (.lengthOutOfBounds 28 20)
    (start s).result = .ok () ∧ (next (run steps (start s).state)).result = .error e ∧
      (let t := run steps (start s).state
       ∃ earlier looked,
        earlier ++ looked ++ (next t).state.socket.queue =
          s.event.socket.queue ++ steps.flatMap Step.items ∧
        (next t).state.Reports looked e ∧
        yielded steps (start s).state = s.recordsOf earlier ∧
        (next t).state.pending = s.recordsOf looked ∧
        (yielded steps (start s).state = s.recordsOf (earlier ++ looked) ↔
          ∀ arrival ∈ looked, s.shown arrival = [])) :=
  have herror := by decide +kernel
  ⟨rfl, herror, yielded_of_next_eq_error rfl herror⟩

/-- A stream reports a datagram that cannot be read before it gives the sample in front of it. -/
theorem reports_cut_notification_before_sample :
    ∃ s, (Session.assemble (Session.groupNames true true)
        (Connection.accept Session.samplingPeer) (Connection.accept Session.samplingPeer)).result =
        .ok s ∧
      let steps := [.arrive [.datagram (notification 7), .datagram cutNotification]]
      let t := run steps (start s).state
      (start s).result = .ok () ∧
        (next t).result = .error (.invalidMessage (.lengthOutOfBounds 28 20)) ∧
        yielded steps (start s).state = [] ∧
        s.recordsOf [.datagram (notification 7)] = [.sample { group := some 7 }] ∧
        (next (next t).state).result = .ok (.event (.sample { group := some 7 })) := by
  refine ⟨_, rfl, ?_⟩
  decide +kernel

end Stream
end SampleTap
