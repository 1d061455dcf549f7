import SampleTap.Proofs.Stream.Conservation

/-!
# Streams that give everything

Over a queue of datagrams that can be read to their ends, with pauses anywhere between them, a
stream gives the events of the queue one poll after the other, and has nothing for now only when
there are no more (`supplied_next`). How the events are spread over the datagrams and the datagrams
over the looks makes no difference: what a stream still has to give is one list (`outstanding`).

`Looked` is what polls do to a session: they receive in non-blocking mode.
-/

namespace SampleTap

/-! ## Looks -/

/-- Whether it belongs to a look at the event connection. -/
def Effect.isLook : Effect → Bool
  | call .event .received => true
  | call .event (.switched .nonBlocking) => true
  | _ => false

namespace Session

/-- What looks at the event connection leave of a session, and what they do. -/
structure Looked (s s' : Session) (trace : List Effect) : Prop where
  frame : ∃ mode made queue ready,
    s' = s.withSocket { s.event.socket with mode, made, queue, ready }
  effects : ∀ effect ∈ trace, effect.isLook = true

theorem Looked.refl (s : Session) : Looked s s [] :=
  ⟨⟨_, _, _, _, rfl⟩, by simp⟩

theorem Looked.trans {s s' s'' : Session} {trace trace' : List Effect} (h : Looked s s' trace)
    (h' : Looked s' s'' trace') : Looked s s'' (trace ++ trace') := by
  obtain ⟨mode, made, queue, ready, rfl⟩ := h.frame
  obtain ⟨mode', made', queue', ready', rfl⟩ := h'.frame
  refine ⟨⟨mode', made', queue', ready', rfl⟩, fun effect heffect => ?_⟩
  exact (List.mem_append.mp heffect).elim (h.effects effect) (h'.effects effect)

/-- A dispatch without blocking only looks at the event connection. -/
theorem looked_dispatch {σ β : Type} (handlers : Handlers σ β) (s : Session) (x : σ) :
    Looked s (dispatch .nonBlocking handlers (s, x)).state.1
      (dispatch .nonBlocking handlers (s, x)).trace := by
  obtain ⟨mode, made, queue, ready, hstate, -⟩ := exists_frame_dispatch .nonBlocking handlers s x
  refine ⟨⟨mode, made, queue, ready, hstate⟩, ?_⟩
  rw [dispatch_eq_pump]
  simp only [List.mem_map]
  rintro _ ⟨call, hcall, rfl⟩
  rcases Socket.trace_pump _ _ _ _ _ call hcall with rfl | rfl
  · rfl
  · rfl

end Session

namespace Stream

open Session (Looked)

theorem looked_collect (t : Stream) :
    Looked t.session (collect t).state.session (collect t).trace := by
  have hunready : Looked t.session (markReady false t.session) [] :=
    ⟨⟨_, _, _, _, rfl⟩, by simp⟩
  have hlooked := Session.looked_dispatch (.ofEvents keep) (markReady false t.session) t.pending
  rw [← Session.dispatchEvents_eq_dispatch] at hlooked
  exact hunready.trans hlooked

/-- A poll does nothing but look. -/
theorem looked_next (t : Stream) : Looked t.session (next t).state.session (next t).trace := by
  fun_induction next t with
  | case1 t event rest hpending => exact .refl t.session
  | case2 t hpending hready collected e herror => exact looked_collect t
  | case3 t hpending hready collected hok hlt ih => exact (looked_collect t).trans ih
  | case4 t hpending hready => exact .refl t.session

/-! ## What is still to come -/

/-- The events that a stream has and those of its queue. -/
def outstanding (t : Stream) : List EventRecord :=
  t.pending ++ t.session.recordsOf t.socket.queue

/-- A stream that nothing keeps from giving what is still to come. -/
structure Supplied (t : Stream) : Prop where
  awake : t.Awake
  readable : t.session.Readable t.socket.queue
  switches : ∀ n, t.socket.faults n .setMode = none

/-- What is given was outstanding, and the rest still is. -/
theorem outstanding_of_took {t t' : Stream} {taken : List Arrival} {given : List EventRecord}
    (h : Took t taken given t') : t.outstanding = given ++ t'.outstanding := by
  calc t.outstanding
      = t.pending ++ t.session.recordsOf taken ++ t.session.recordsOf t'.socket.queue := by
        rw [outstanding, h.queue, Session.recordsOf_append, List.append_assoc]
    _ = given ++ t'.outstanding := by
        rw [← h.events, ← h.session.recordsOf t'.socket.queue, List.append_assoc, outstanding]

/-- Taking arrivals leaves a readable queue readable, and no call starts to fail. -/
theorem Supplied.of_looked {t t' : Stream} {taken : List Arrival} {given : List EventRecord}
    {trace : List Effect} (h : t.Supplied) (htook : Took t taken given t')
    (hlooked : Looked t.session t'.session trace) (hawake : t'.Awake) : t'.Supplied := by
  obtain ⟨mode, made, queue, ready, hframe⟩ := hlooked.frame
  refine ⟨hawake, fun arrival harrival => ?_, ?_⟩
  · rw [htook.session.endsLook]
    refine h.readable arrival ?_
    rw [htook.queue]
    exact List.mem_append_right taken harrival
  · rw [socket, hframe]
    exact h.switches

/-- A look succeeds and gives nothing away. -/
theorem supplied_collect {t : Stream} (h : t.Supplied) :
    (collect t).result = .ok () ∧ (collect t).state.Supplied ∧
      (collect t).state.outstanding = t.outstanding := by
  obtain ⟨taken, htook⟩ := took_collect t
  have hreadable : (markReady false t.session).Readable t.socket.queue := h.readable
  obtain ⟨hresult, hawake⟩ := Session.dispatch_ofEvents_of_readable keep_proceeds t.pending
    hreadable (h.switches _)
  have hstate := state_collect t
  refine ⟨?_, h.of_looked htook (looked_collect t) ?_, (outstanding_of_took htook).symm⟩
  · rw [← Session.dispatchEvents_eq_dispatch] at hresult
    show (Session.dispatchEvents .nonBlocking keep _).result.map (fun _ => ()) = _
    rw [hresult]
    rfl
  · rw [Awake, socket, hstate]
    exact hawake

/-- A poll gives the first of the events that are still to come, and leaves the others. -/
theorem supplied_next {t : Stream} (h : t.Supplied) :
    (next t).state.Supplied ∧
      match t.outstanding with
      | [] => (next t).result = .ok .pending
      | record :: rest =>
        (next t).result = .ok (.event record) ∧ (next t).state.outstanding = rest := by
  fun_induction next t with
  | case1 t record rest hpending =>
    refine ⟨⟨h.awake, h.readable, h.switches⟩, ?_⟩
    rw [outstanding, hpending]
    exact ⟨rfl, rfl⟩
  | case2 t hpending hready collected e herror =>
    have hok := (supplied_collect h).1
    simp [collected, hok] at herror
  | case3 t hpending hready collected hok hlt ih =>
    obtain ⟨-, hsupplied, hsame⟩ := supplied_collect h
    obtain ⟨hlater, hpoll⟩ := ih hsupplied
    refine ⟨hlater, ?_⟩
    rw [← hsame]
    exact hpoll
  | case4 t hpending hready =>
    have hempty : t.socket.queue = [] := h.awake.resolve_left hready
    refine ⟨h, ?_⟩
    rw [outstanding, hpending, hempty]
    rfl

/-- Where no switch of modes fails, a session over a readable queue becomes a stream that gives the
events of the queue. -/
theorem supplied_start {s : Session} (hqueue : s.Readable s.event.socket.queue)
    (hswitches : ∀ n, s.event.socket.faults n .setMode = none) :
    (start s).result = .ok () ∧ (start s).trace = [.call .event (.switched .nonBlocking)] ∧
      Looked s (start s).state.session (start s).trace ∧ (start s).state.Supplied ∧
      (start s).state.outstanding = s.recordsOf s.event.socket.queue := by
  have hstart := start_of_switched (hswitches s.event.socket.made)
  have hok : (start s).result = .ok () := by rw [hstart]
  have hqueued := (awake_start hok).2
  obtain ⟨hpending, -, halike⟩ := pending_start hok
  refine ⟨hok, by rw [hstart], ?_, ⟨(awake_start hok).1, ?_, ?_⟩, ?_⟩
  · rw [hstart]
    exact ⟨⟨_, _, _, _, rfl⟩, by simp [Effect.isLook]⟩
  · rw [hqueued]
    intro arrival harrival
    rw [halike.endsLook]
    exact hqueue arrival harrival
  · rw [hstart]
    exact hswitches
  · rw [outstanding, hpending, hqueued, halike.recordsOf, List.nil_append]

end Stream
end SampleTap
