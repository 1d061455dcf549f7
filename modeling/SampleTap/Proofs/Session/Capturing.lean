import SampleTap.Proofs.Session.Bookkeeping
import SampleTap.Proofs.Session.Leftovers
import SampleTap.Proofs.Session.Recording

/-!
# The run of a capture

A capture goes on from the family's description, which starts it, through any number of recordings
of the event connection. All of them are the same loop, and the invariant of its buffer holds from
one to the next (`Capturing`): recordings keep it, failed ones too (`exists_captured_recordEvents`),
and nothing else touches the capture before it is finished (`Task.spares`).

So every frame of a capture is one that a recording handed over, and each recording keeps to what
it received (`captures_faithfully`).
-/

namespace SampleTap

/-! ## Frames of a trace -/

/-- What is done with a destination of frames. -/
def Effect.sinkCall? : Effect → Option SinkCall
  | call _ _ => none
  | sink done => some done

/-- The frame that is handed over. -/
def Effect.frame? (effect : Effect) : Option Bytes := effect.move?.bind Move.frame?

theorem Effect.frame?_call (side : Side) (call : Call) : (Effect.call side call).frame? = none := by
  cases call <;> rfl

/-- The frames of a trace can be told from its moves. -/
theorem Effect.frames_eq (trace : List Effect) :
    trace.filterMap frame? = (trace.filterMap move?).filterMap Move.frame? := by
  rw [List.filterMap_filterMap]
  rfl

namespace Session

/-- What a loop that drew on a socket leaves, when its receives came to `outcomes`. -/
structure Captured (snaplen : UInt32) (socket socket' : Socket) (trace : List Effect)
    (outcomes : List (Except Error Bytes)) : Prop where
  /-- The loop received in order, from the first arrival on. -/
  received : outcomes <+: socket.receipts
  queue : socket'.queue = socket.queue.drop outcomes.length
  faithful : Faithful snaplen outcomes (trace.filterMap Effect.move?)

/-- The frames in a trace are those of the datagrams with any bytes. -/
theorem Captured.frames_eq {snaplen : UInt32} {socket socket' : Socket} {trace : List Effect}
    {outcomes : List (Except Error Bytes)} (h : Captured snaplen socket socket' trace outcomes) :
    trace.filterMap Effect.frame? =
      (outcomes.filterMap datagram?).map (Frame.ofDatagram snaplen) := by
  rw [Effect.frames_eq, h.faithful.frames]

/-- Whether a capture is under way that can take a datagram. -/
def Capturing (snaplen : UInt32) (s : Session) : Prop :=
  ∃ capture, s.capture = some capture ∧ capture.Primed ∧ capture.snaplen = snaplen

/-! ## Starting -/

theorem moves_release (sink : Sink) :
    (sink.release.map Effect.sink).filterMap Effect.move? = [] := by
  rw [Effect.moves_sink, Sink.moves_release]

/-- With no capture active and room behind the header, the description is recorded, and the capture
is active if that succeeds. -/
theorem startCapture_eq {s : Session} (hidle : s.capture = none) {snaplen : UInt32}
    (hroom : Frame.headerLength < snaplen.toNat) (sink : Sink) (clock : Clock) :
    startCapture sink snaplen clock s =
      let recorded := recordDescription (s, { sink, snaplen, clock })
      match recorded.result with
      | .error e => ⟨recorded.state.1,
          recorded.trace ++ recorded.state.2.sink.release.map .sink, .error e⟩
      | .ok () => ⟨{ recorded.state.1 with capture := some recorded.state.2 }, recorded.trace,
          .ok ()⟩ := by
  rw [startCapture, hidle, Capture.start_of_room hroom]
  rfl

/-- A second capture is refused, and its sink is released unused. -/
theorem startCapture_of_active {s : Session} (hactive : s.capture.isSome) (sink : Sink)
    (snaplen : UInt32) (clock : Clock) :
    startCapture sink snaplen clock s =
      ⟨s, sink.release.map .sink, .error .captureAlreadyInitialized⟩ := by
  rw [startCapture, if_pos hactive]

/-- A snapshot length without room behind the header is refused, and the sink is released unused. -/
theorem startCapture_of_short {s : Session} (hidle : s.capture = none) {snaplen : UInt32}
    (hshort : snaplen.toNat ≤ Frame.headerLength) (sink : Sink) (clock : Clock) :
    startCapture sink snaplen clock s = ⟨s, sink.release.map .sink,
      .error (.capture (.snaplenTooSmall snaplen Frame.headerLength))⟩ := by
  rw [startCapture, hidle, Capture.start, if_pos hshort]
  rfl

/-- The description is recorded. A capture whose start succeeded is under way, and then the reply
was read to its end. -/
theorem exists_captured_startCapture {s : Session} (hidle : s.capture = none) {snaplen : UInt32}
    (hroom : Frame.headerLength < snaplen.toNat) (sink : Sink) (clock : Clock) :
    let started := startCapture sink snaplen clock s
    ∃ outcomes, Captured snaplen s.control.socket started.state.control.socket started.trace
        outcomes ∧
      (started.result = .ok () → Capturing snaplen started.state ∧
        ∃ datagrams, outcomes = datagrams.map .ok ∧
          ReadThrough (replyProceeds s.control.socket.nextSeq) datagrams) := by
  intro started
  have hstarted : started = startCapture sink snaplen clock s := rfl
  rw [startCapture_eq hidle hroom, recordDescription_eq] at hstarted
  cases hsent : (Socket.send s.control.describeRequest.finish s.control.socket).result with
  | error e =>
    simp only [hsent] at hstarted
    rw [hstarted]
    refine ⟨[], ⟨List.nil_prefix, rfl, ?_⟩, by simp⟩
    rw [List.filterMap_append, moves_release]
    exact Recording.nil.faithful hroom
  | ok _ =>
    simp only [hsent] at hstarted
    obtain ⟨outcomes, hrecorded⟩ := exists_recorded .control
      (replyProceeds s.control.socket.nextSeq) s.control.requested.socket
      (Capture.primed_of_room hroom sink clock)
    have hfaithful := hrecorded.moves.faithful hroom
    cases hresult : (record .control (replyProceeds s.control.socket.nextSeq)
        s.control.requested.socket { sink, snaplen, clock }).result with
    | error e =>
      simp only [hresult] at hstarted
      rw [hstarted]
      refine ⟨outcomes, ⟨hrecorded.received, hrecorded.queue, ?_⟩, by simp⟩
      rw [List.filterMap_append, moves_release, List.append_nil]
      exact hfaithful
    | ok _ =>
      simp only [hresult] at hstarted
      rw [hstarted]
      refine ⟨outcomes, ⟨hrecorded.received, hrecorded.queue, hfaithful⟩, fun _ => ⟨?_, ?_⟩⟩
      · exact ⟨_, rfl, hrecorded.primed, hrecorded.snaplen⟩
      · exact hrecorded.succeeded hresult

/-! ## Going on -/

/-- Recording events hands over what the event connection gives, and the capture stays active. -/
theorem exists_captured_recordEvents {s : Session} {snaplen : UInt32} (h : Capturing snaplen s) :
    let recorded := recordEvents s
    (∃ outcomes, Captured snaplen s.event.socket recorded.state.event.socket recorded.trace
      outcomes) ∧ Capturing snaplen recorded.state := by
  intro recorded
  obtain ⟨capture, hcapture, hprimed, rfl⟩ := h
  obtain ⟨mode, result, hswitch⟩ := Socket.setMode_eq .blocking s.event.socket
  have hrecorded : recorded = recordEvents s := rfl
  rw [recordEvents, hcapture] at hrecorded
  simp only [Session.setMode, onEvent_eq, hswitch] at hrecorded
  cases result with
  | error e =>
    rw [hrecorded]
    refine ⟨⟨[], List.nil_prefix, rfl, Recording.nil.faithful hprimed.room⟩, ?_⟩
    exact ⟨capture, hcapture, hprimed, rfl⟩
  | ok _ =>
    obtain ⟨outcomes, hran⟩ := exists_recorded .event (fun _ => .ok true)
      { s.event.socket with mode, made := s.event.socket.made + 1 } hprimed
    rw [hrecorded]
    refine ⟨⟨outcomes, hran.received, hran.queue, ?_⟩, ?_⟩
    · exact hran.moves.faithful hprimed.room
    · exact ⟨_, rfl, hran.primed, hran.snaplen⟩

/-! ## Other tasks -/

/-- Work that has nothing to do with a capture. -/
structure Aside (s s' : Session) (trace : List Effect) : Prop where
  capture : s'.capture = s.capture
  calls : ∀ effect ∈ trace, effect.sinkCall? = none

theorem sinkCall?_calls (side : Side) (calls : List Call) :
    ∀ effect ∈ calls.map (Effect.call side), effect.sinkCall? = none := by
  intro effect heffect
  obtain ⟨call, -, rfl⟩ := List.mem_map.mp heffect
  rfl

theorem Aside.trans {s s' s'' : Session} {trace trace' : List Effect} (h : Aside s s' trace)
    (h' : Aside s' s'' trace') : Aside s s'' (trace ++ trace') := by
  refine ⟨h'.capture.trans h.capture, fun effect heffect => ?_⟩
  exact (List.mem_append.mp heffect).elim (h.calls effect) (h'.calls effect)

theorem aside_setMode (mode : Mode) (s : Session) :
    Aside s (setMode mode s).state (setMode mode s).trace := by
  rw [setMode, onEvent_eq]
  exact ⟨rfl, sinkCall?_calls .event _⟩

theorem aside_bindGroup (g : UInt32) (s : Session) :
    Aside s (bindGroup g s).state (bindGroup g s).trace := by
  have hdetach : Aside s (detachGroup s).state (detachGroup s).trace := by
    cases hfilter : s.filter with
    | none =>
      rw [detachGroup_of_none hfilter]
      exact ⟨rfl, by simp⟩
    | some f =>
      rw [detachGroup_of_some hfilter]
      cases (Socket.detach s.event.socket).result with
      | error e => exact ⟨rfl, sinkCall?_calls .event _⟩
      | ok _ => exact ⟨rfl, sinkCall?_calls .event _⟩
  have hattach (s : Session) : Aside s (attachGroup g s).state (attachGroup g s).trace := by
    rw [attachGroup_eq]
    cases (Socket.attach (GroupFilter.mk g).program s.event.socket).result with
    | error e => exact ⟨rfl, sinkCall?_calls .event _⟩
    | ok _ => exact ⟨rfl, sinkCall?_calls .event _⟩
  cases hresult : (detachGroup s).result with
  | error e =>
    rw [bindGroup_of_detachGroup_error hresult g]
    exact hdetach
  | ok _ =>
    rw [bindGroup_of_detachGroup_ok hresult g]
    exact hdetach.trans (hattach (detachGroup s).state)

/-- Dispatching leaves the capture aside: nothing that is dispatched is written to it. -/
theorem aside_dispatch {σ β : Type} (mode : Mode) (handlers : Handlers σ β) (s : Session) (x : σ) :
    Aside s (dispatch mode handlers (s, x)).state.1 (dispatch mode handlers (s, x)).trace := by
  rw [dispatch_eq_pump]
  exact ⟨rfl, sinkCall?_calls .event _⟩

theorem aside_forEachGroup {σ β : Type} (visit : Visitor GroupDescriptor σ β) (s : Session)
    (x : σ) :
    Aside s (forEachGroup visit (s, x)).state.1 (forEachGroup visit (s, x)).trace := by
  rw [forEachGroup_eq]
  cases (Socket.send s.control.listRequest.finish s.control.socket).result with
  | error e => exact ⟨rfl, sinkCall?_calls .control [_]⟩
  | ok _ => exact ⟨rfl, sinkCall?_calls .control (_ :: _)⟩

/-- Whether a task has to do with a capture. -/
def Task.onCapture : Task → Bool
  | startCapture _ _ _ => true
  | startCaptureFile _ _ => true
  | recordEvents => true
  | finishCapture => true
  | _ => false

/-- A task that is not about captures leaves the capture aside. -/
theorem Task.aside {task : Task} (h : task.onCapture = false) (s : Session) :
    Aside s (task.run s).state (task.run s).trace := by
  cases task with
  | arrive side items =>
    cases side with
    | event => exact ⟨rfl, by simp [run, Action.modify]⟩
    | control => exact ⟨rfl, by simp [run, Action.modify]⟩
  | multicast data => exact ⟨rfl, by simp [run, Action.modify]⟩
  | bind group => exact aside_bindGroup group s
  | setMode mode => exact aside_setMode mode s
  | dispatch mode handlers x => exact aside_dispatch mode handlers s x
  | dispatchEvents mode visit x =>
    rw [run, dispatchEvents_eq_dispatch]
    exact aside_dispatch mode _ s x
  | forEachGroup visit x => exact aside_forEachGroup visit s x
  | groups => exact aside_forEachGroup _ s []
  | startCapture => exact Bool.noConfusion h
  | startCaptureFile => exact Bool.noConfusion h
  | recordEvents => exact Bool.noConfusion h
  | finishCapture => exact Bool.noConfusion h

/-- What leaves a capture alone. -/
structure Spares (s s' : Session) (trace : List Effect) : Prop where
  capture : s'.capture = s.capture
  frames : ∀ effect ∈ trace, effect.frame? = none

theorem Aside.spares {s s' : Session} {trace : List Effect} (h : Aside s s' trace) :
    Spares s s' trace := by
  refine ⟨h.capture, fun effect heffect => ?_⟩
  have hcall := h.calls effect heffect
  cases effect with
  | call side call => exact Effect.frame?_call side call
  | sink call => simp [Effect.sinkCall?] at hcall

theorem frames_release (sink : Sink) :
    ∀ effect ∈ sink.release.map Effect.sink, effect.frame? = none := by
  rw [← List.filterMap_eq_nil_iff, Effect.frames_eq, moves_release]
  rfl

/-- While a capture is under way, only a recording hands frames over, and only finishing ends it. -/
theorem Task.spares {s : Session} (hactive : s.capture.isSome) {task : Task}
    (hrecord : task ≠ .recordEvents) (hfinish : task ≠ .finishCapture) :
    Spares s (task.run s).state (task.run s).trace := by
  cases hcapture : task.onCapture with
  | false => exact (Task.aside hcapture s).spares
  | true =>
    cases task with
    | startCapture sink snaplen clock =>
      rw [run, startCapture_of_active hactive]
      exact ⟨rfl, frames_release sink⟩
    | startCaptureFile path clock =>
      rw [run, Session.startCaptureFile, if_pos hactive]
      exact ⟨rfl, by simp⟩
    | recordEvents => exact absurd rfl hrecord
    | finishCapture => exact absurd rfl hfinish
    | _ => exact Bool.noConfusion hcapture

/-- A capture stays active with its snapshot length until it is finished. -/
theorem Capturing.run {snaplen : UInt32} {s : Session} (h : Capturing snaplen s) {task : Task}
    (hfinish : task ≠ .finishCapture) : Capturing snaplen (task.run s).state := by
  by_cases hrecord : task = .recordEvents
  · rw [hrecord]
    exact (exists_captured_recordEvents h).2
  · obtain ⟨capture, hcapture, hrest⟩ := h
    have hspares := Task.spares (by rw [hcapture]; rfl) hrecord hfinish
    exact ⟨capture, hspares.capture.trans hcapture, hrest⟩

/-- A capture stays active over any tasks that do not finish it. -/
theorem Capturing.afterAll {snaplen : UInt32} {s : Session} (h : Capturing snaplen s)
    {tasks : List Task} (hgoing : .finishCapture ∉ tasks) :
    Capturing snaplen (afterAll tasks s) := by
  induction tasks generalizing s with
  | nil => exact h
  | cons task rest ih =>
    have hnot : Task.finishCapture ≠ task ∧ .finishCapture ∉ rest := by
      simpa using hgoing
    exact ih (h.run hnot.1.symm) hnot.2

/-- A capture that ends hands nothing over. -/
theorem frames_finishCapture (s : Session) : ∀ effect ∈ (finishCapture s).trace,
    effect.frame? = none := by
  unfold finishCapture releaseCapture
  cases s.capture with
  | none => simp
  | some capture =>
    rw [← List.filterMap_eq_nil_iff, Effect.frames_eq]
    simp only [Option.isSome_some, if_true]
    rw [Effect.moves_sink, Capture.finish, List.filterMap_append, Sink.moves_release,
      Capture.onSink_eq, Sink.moves_flush]
    rfl

/-! ## Any run -/

/-- A capture keeps to what was received: in the loop that starts it, whatever comes of that, and
in every recording while it is under way, whatever has happened since. Nothing else hands a frame
over. -/
theorem captures_faithfully {s : Session} (hidle : s.capture = none) {snaplen : UInt32}
    (hroom : Frame.headerLength < snaplen.toNat) (sink : Sink) (clock : Clock) :
    let started := startCapture sink snaplen clock s
    (∃ outcomes, Captured snaplen s.control.socket started.state.control.socket started.trace
      outcomes) ∧
    (started.result = .ok () → ∀ tasks : List Task, .finishCapture ∉ tasks →
      let later := afterAll tasks started.state
      let recorded := recordEvents later
      later.capture.isSome ∧
      (∃ outcomes, Captured snaplen later.event.socket recorded.state.event.socket recorded.trace
        outcomes) ∧
      ∀ task : Task, task ≠ .recordEvents →
        (task.run later).trace.filterMap Effect.frame? = []) := by
  intro started
  obtain ⟨outcomes, hcaptured, hok⟩ := exists_captured_startCapture hidle hroom sink clock
  refine ⟨⟨outcomes, hcaptured⟩, ?_⟩
  intro hstarted tasks hgoing later recorded
  have hcapturing : Capturing snaplen later := (hok hstarted).1.afterAll hgoing
  have hactive : later.capture.isSome := by
    obtain ⟨capture, hcapture, -⟩ := hcapturing
    rw [hcapture]
    rfl
  refine ⟨hactive, (exists_captured_recordEvents hcapturing).1, ?_⟩
  intro task hrecord
  apply List.filterMap_eq_nil_iff.mpr
  by_cases hfinish : task = .finishCapture
  · rw [hfinish]
    exact frames_finishCapture later
  · exact (Task.spares hactive hrecord hfinish).frames

/-- A flush that fails ends a recording behind a long frame. The next recording goes on with the
datagram after it, and nothing of the long frame is left in the short one. -/
theorem captures_faithfully_failed_flush :
    let sink := Sink.observer
      { flushFaults := fun n => if n = 1 then some (.io .writerFull) else none }
    let s := (withArrivals []).withReplies [.datagram (replyEnd 1)]
    let started := startCapture sink 20 (fun _ => ⟨0, 0⟩) s
    let tasks : List Task :=
      [.arrive .event [.datagram [1, 2, 3, 4, 5, 6], .datagram [7], .datagram []], .recordEvents]
    let failed := (afterAll (tasks.take 1) started.state)
    let later := afterAll tasks started.state
    let moves (s : Session) := (recordEvents s).trace.filterMap Effect.move?
    s.capture = none ∧ Frame.headerLength < (20 : UInt32).toNat ∧ started.result = .ok () ∧
      .finishCapture ∉ tasks ∧
      moves failed = [.received, .framed (Frame.header ++ [1, 2, 3, 4]) 20 true, .flushed false] ∧
      moves later =
        [.received, .framed (Frame.header ++ [7]) 17 true, .flushed true, .received] ∧
      ∃ outcomes, Captured 20 later.event.socket (recordEvents later).state.event.socket
        (recordEvents later).trace outcomes := by
  intro sink s started tasks failed later moves
  have hroom : Frame.headerLength < (20 : UInt32).toNat := by decide
  have hok : started.result = .ok () := by decide +kernel
  have hgoing : .finishCapture ∉ tasks := by simp [tasks]
  obtain ⟨-, hrun⟩ := captures_faithfully (s := s) rfl hroom sink (fun _ => ⟨0, 0⟩)
  obtain ⟨-, hcaptured, -⟩ := hrun hok tasks hgoing
  refine ⟨rfl, hroom, hok, hgoing, ?_, ?_, hcaptured⟩
  · decide +kernel
  · decide +kernel

end Session
end SampleTap
