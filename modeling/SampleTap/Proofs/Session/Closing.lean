import SampleTap.Proofs.Session.Lifecycle
import SampleTap.Stream

/-!
# Closing a session

However a session ends, its filter is taken out of force once if there is one, then its capture is
flushed once if there is one, and then both connections close (`ends_of_detachable`). What a
teardown takes down it first forgets, so that the drop behind it finds nothing left
(`Session.drop_teardown`).

A filter on record can be taken out of force, as it could be put there (`Detachable`). Whatever a
session does before its end keeps that, and closes no connection (`Task.continues`).
-/

namespace SampleTap

/-! ## Calls -/

/-- Whether a connection is closed. -/
def Effect.isClosed : Effect → Bool
  | call _ .closed => true
  | _ => false

theorem Effect.isClosed_of_ofListening {effect : Effect} (h : effect.ofListening = true) :
    effect.isClosed = false := by
  unfold ofListening at h
  split at h <;> simp_all [isClosed]

theorem Effect.isClosed_of_ofAsking {effect : Effect} (h : effect.ofAsking = true) :
    effect.isClosed = false := by
  unfold ofAsking at h
  split at h <;> simp_all [isClosed]

namespace Socket

/-- A filter that was put in force could be. -/
theorem filterRule_of_attach_ok {program : Bpf.Program} {s : Socket}
    (h : (attach program s).result = .ok ()) : s.filterRule ≠ .invalidDescriptor := by
  intro hinvalid
  unfold attach at h
  rw [if_pos hinvalid] at h
  split at h <;> simp at h

/-- A filter that can be taken out of force is so by one call. -/
theorem trace_detach_of_valid {s : Socket} (h : s.filterRule ≠ .invalidDescriptor) :
    (detach s).trace = [.detached] := by
  unfold detach call
  rw [if_neg h]
  cases s.faults s.made .detach with
  | some errno => rfl
  | none =>
    simp only [Ran.after]
    split <;> rfl

theorem filterRule_attach (program : Bpf.Program) (s : Socket) :
    (attach program s).state.filterRule = s.filterRule := by
  unfold attach call
  split
  · rfl
  · split
    · rfl
    · cases s.faults s.made .attach <;> rfl

theorem filterRule_detach (s : Socket) : (detach s).state.filterRule = s.filterRule := by
  unfold detach call
  split
  · rfl
  · cases s.faults s.made .detach with
    | some errno => rfl
    | none =>
      simp only [Ran.after]
      split <;> rfl

end Socket

namespace Session

/-! ## Taking a session down -/

/-- Whether a filter on record can be taken out of force. -/
def Detachable (s : Session) : Prop :=
  s.filter.isSome → s.event.socket.filterRule ≠ .invalidDescriptor

/-- The call that takes the filter on record out of force. -/
def detaching (s : Session) : List Effect :=
  if s.filter.isSome then [.call .event .detached] else []

/-- What is done with the destination of a capture that ends. -/
def flushing (s : Session) : List Effect :=
  match s.capture with
  | none => []
  | some capture => capture.finish.1.map .sink

/-- What becomes of the filter on record. -/
def detachResult (s : Session) : Except Error Unit :=
  if s.filter.isSome then (Socket.detach s.event.socket).result else .ok ()

/-- What becomes of the last flush of a capture. -/
def flushResult (s : Session) : Except Error Unit :=
  match s.capture with
  | none => .ok ()
  | some capture => (Sink.flush capture.sink).result

/-- Both connections close. -/
def closings : List Effect := [.call .event .closed, .call .control .closed]

/-- The filter is taken out of force if it is on record, and is off the record even if the call
fails. -/
theorem releaseFilter_eq {s : Session} (h : Detachable s) :
    ∃ socket, releaseFilter s =
      ⟨{ s.withSocket socket with filter := none }, detaching s, detachResult s⟩ := by
  rcases s with ⟨event, control, _ | f, capture⟩
  · exact ⟨event.socket, rfl⟩
  · have htrace : (Socket.detach event.socket).trace = [.detached] :=
      Socket.trace_detach_of_valid (h rfl)
    refine ⟨(Socket.detach event.socket).state, ?_⟩
    show onEvent (Connection.onSocket Socket.detach) ⟨event, control, none, capture⟩ = _
    rw [onEvent_eq, htrace]
    rfl

/-- The capture is finished if there is one, and is gone even if that fails. -/
theorem releaseCapture_eq (s : Session) :
    releaseCapture s = ⟨{ s with capture := none }, flushing s, flushResult s⟩ := by
  rcases s with ⟨event, control, filter, _ | capture⟩
  · rfl
  · have hresult : capture.finish.2 = (Sink.flush capture.sink).result := by
      rw [Capture.finish, Capture.onSink_eq]
    show Ran.mk _ _ capture.finish.2 = _
    rw [hresult]
    rfl

/-- Taking a session down detaches and flushes, the one whatever becomes of the other. -/
theorem teardown_eq {s : Session} (h : Detachable s) :
    ∃ socket, teardown s =
      ⟨{ s.withSocket socket with filter := none, capture := none }, detaching s ++ flushing s,
        detachResult s >>= fun _ => flushResult s⟩ := by
  obtain ⟨socket, hfilter⟩ := releaseFilter_eq h
  refine ⟨socket, ?_⟩
  rw [teardown, hfilter, releaseCapture_eq]
  cases detachResult s <;> rfl

/-! ## The end -/

/-- How a session ends, by closing it, dropping it, or by a stream that cannot be made of it. -/
structure Ends (s : Session) : Prop where
  /-- A failed detach is reported before a failed flush. -/
  close : s.close = ⟨s.teardown.state, detaching s ++ flushing s ++ closings,
    detachResult s >>= fun _ => flushResult s⟩
  drop : s.drop = ⟨s.teardown.state, detaching s ++ flushing s ++ closings, .ok ()⟩
  /-- The drop behind a teardown only closes the connections. -/
  again : s.teardown.state.drop = ⟨s.teardown.state, closings, .ok ()⟩
  start : ∀ e, (Stream.start s).result = .error e →
    (Stream.start s).trace =
      .call .event (.switched .nonBlocking) :: (detaching s ++ flushing s ++ closings)
  /-- A capture is flushed once. -/
  flushed : movesIn (flushing s) = (s.capture.map fun capture =>
    Move.flushed (Sink.succeeded (Sink.flush capture.sink).result)).toList
  sinks : ∀ effect ∈ flushing s, ∃ call, effect = .sink call

theorem sinks_flushing (s : Session) : ∀ effect ∈ flushing s, ∃ call, effect = .sink call := by
  unfold flushing
  cases s.capture with
  | none => simp
  | some capture =>
    intro effect heffect
    obtain ⟨call, -, rfl⟩ := List.mem_map.mp heffect
    exact ⟨call, rfl⟩

/-- Closing does everything in order and gives the first error. -/
theorem close_of_detachable {s : Session} (h : Detachable s) :
    s.close = ⟨s.teardown.state, detaching s ++ flushing s ++ closings,
      detachResult s >>= fun _ => flushResult s⟩ := by
  obtain ⟨socket, hteardown⟩ := teardown_eq h
  rw [close, drop_teardown, hteardown]
  rfl

/-- Dropping does what closing does and gives no error. -/
theorem drop_of_detachable {s : Session} (h : Detachable s) :
    s.drop = ⟨s.teardown.state, detaching s ++ flushing s ++ closings, .ok ()⟩ := by
  obtain ⟨socket, hteardown⟩ := teardown_eq h
  rw [drop, hteardown]
  rfl

/-- A session becomes a stream in non-blocking mode, or it is dropped when it cannot change to
it. -/
theorem start_cases (s : Session) :
    ∃ mode made, let switched := s.withSocket { s.event.socket with mode, made }
      (∃ ready, Stream.start s = ⟨{ session := Stream.markReady ready switched },
        [.call .event (.switched .nonBlocking)], .ok ()⟩) ∨
      ∃ gone e, Stream.start s =
        ⟨gone, .call .event (.switched .nonBlocking) :: (drop switched).trace, .error e⟩ := by
  obtain ⟨mode, result, hswitch⟩ := Socket.setMode_eq .nonBlocking s.event.socket
  refine ⟨mode, s.event.socket.made + 1, ?_⟩
  unfold Stream.start
  rw [setMode, onEvent_eq, hswitch]
  cases result with
  | ok _ => exact Or.inl ⟨_, rfl⟩
  | error e => exact Or.inr ⟨_, e, rfl⟩

/-- A session whose filter can be detached comes to its end in full, closed or dropped. -/
theorem ends_of_detachable {s : Session} (h : Detachable s) : Ends s where
  close := close_of_detachable h
  drop := drop_of_detachable h
  again := drop_teardown s
  start e herror := by
    obtain ⟨mode, made, ⟨ready, hstart⟩ | ⟨gone, e', hstart⟩⟩ := start_cases s
    · simp [hstart] at herror
    · have hswitched : Detachable (s.withSocket { s.event.socket with mode, made }) := h
      rw [hstart]
      dsimp only
      rw [drop_of_detachable hswitched]
      rfl
  flushed := by
    unfold flushing
    cases s.capture with
    | none => rfl
    | some capture => exact (movesIn_finish capture).trans (Sink.moves_flush capture.sink)
  sinks := sinks_flushing s

/-! ## Going on -/

/-- What comes before the end: no connection closes, and a filter on record stays one that can be
taken out of force. -/
structure Continues (s s' : Session) (trace : List Effect) : Prop where
  opened : ∀ effect ∈ trace, effect.isClosed = false
  detachable : Detachable s → Detachable s'

theorem Continues.trans {s s' s'' : Session} {trace trace' : List Effect}
    (h : Continues s s' trace) (h' : Continues s' s'' trace') :
    Continues s s'' (trace ++ trace') := by
  refine ⟨fun effect heffect => ?_, h'.detachable ∘ h.detachable⟩
  exact (List.mem_append.mp heffect).elim (h.opened effect) (h'.opened effect)

/-- A session continues while it listens. -/
theorem Listened.continues {s s' : Session} {trace : List Effect} (h : Listened s s' trace) :
    Continues s s' trace := by
  refine ⟨fun effect heffect => Effect.isClosed_of_ofListening (h.effects effect heffect), ?_⟩
  rw [Detachable, Detachable, h.filter, h.rule]
  exact id

theorem Asked.continues {s s' : Session} {trace : List Effect} (h : Asked s s' trace) :
    Continues s s' trace := by
  refine ⟨fun effect heffect => Effect.isClosed_of_ofAsking (h.effects effect heffect), ?_⟩
  rw [Detachable, Detachable, h.filter, h.event]
  exact id

/-- A session continues when its filter is taken away, be it with an error. -/
theorem continues_detachGroup (s : Session) :
    Continues s (detachGroup s).state (detachGroup s).trace := by
  have hcalls : ∀ effect ∈ (Socket.detach s.event.socket).trace.map (Effect.call .event),
      effect.isClosed = false := by
    rcases Socket.trace_detach s.event.socket with hnone | hone
    · simp [hnone]
    · simp [hone, Effect.isClosed]
  cases hfilter : s.filter with
  | none =>
    rw [detachGroup_of_none hfilter]
    exact ⟨by simp, id⟩
  | some f =>
    rw [detachGroup_of_some hfilter]
    cases (Socket.detach s.event.socket).result with
    | error e =>
      refine ⟨hcalls, fun h hsome => ?_⟩
      show (Socket.detach s.event.socket).state.filterRule ≠ .invalidDescriptor
      rw [Socket.filterRule_detach]
      exact h hsome
    | ok _ => exact ⟨hcalls, fun _ hsome => Bool.noConfusion hsome⟩

theorem continues_attachGroup (g : UInt32) (s : Session) :
    Continues s (attachGroup g s).state (attachGroup g s).trace := by
  have hcalls : ∀ effect ∈ (Socket.attach (GroupFilter.mk g).program s.event.socket).trace.map
      (Effect.call .event), effect.isClosed = false := by
    intro effect heffect
    obtain ⟨call, hcall, rfl⟩ := List.mem_map.mp heffect
    rw [Socket.trace_attach _ _ call hcall]
    rfl
  have hrule := Socket.filterRule_attach (GroupFilter.mk g).program s.event.socket
  rw [attachGroup_eq]
  cases hresult : (Socket.attach (GroupFilter.mk g).program s.event.socket).result with
  | error e =>
    refine ⟨hcalls, fun h hsome => ?_⟩
    show (Socket.attach _ s.event.socket).state.filterRule ≠ .invalidDescriptor
    rw [hrule]
    exact h hsome
  | ok _ =>
    refine ⟨hcalls, fun _ _ => ?_⟩
    show (Socket.attach _ s.event.socket).state.filterRule ≠ .invalidDescriptor
    rw [hrule]
    exact Socket.filterRule_of_attach_ok hresult

theorem continues_bindGroup (g : UInt32) (s : Session) :
    Continues s (bindGroup g s).state (bindGroup g s).trace := by
  cases hresult : (detachGroup s).result with
  | error e =>
    rw [bindGroup_of_detachGroup_error hresult g]
    exact continues_detachGroup s
  | ok _ =>
    rw [bindGroup_of_detachGroup_ok hresult g]
    exact (continues_detachGroup s).trans (continues_attachGroup g _)

/-- No task ends a session. -/
theorem Task.continues (task : Task) (s : Session) :
    Continues s (task.run s).state (task.run s).trace := by
  rcases task.kind s with ⟨group, rfl⟩ | hlistened | hasked
  · exact continues_bindGroup group s
  · exact hlistened.continues
  · exact hasked.continues

end Session
end SampleTap
