import Mathlib.Tactic.SplitIfs
import SampleTap.Proofs.Session.Dispatch
import SampleTap.Proofs.Session.Requests

/-!
# What a session is asked to do

A run of a session is a list of tasks (`Session.Task`): something arrives, or an operation of the
session is called. A task that is not a binding is of one of two kinds (`Task.kind`). Either it only
listens on the event connection (`Listened`), or it only asks on the control connection (`Asked`);
what the other connection holds is left alone, and so are the filter and its record.

Every request that is sent takes one sequence number, so the next one can be told from the trace
(`Asked.seq`).
-/

namespace SampleTap

variable {σ β α : Type}

/-! ## Kinds of effects -/

namespace Effect

/-- Whether it belongs to listening on the event connection. -/
def ofListening : Effect → Bool
  | call .event .received => true
  | call .event (.switched _) => true
  | sink _ => true
  | _ => false

/-- Whether it belongs to a request on the control connection and its reply. -/
def ofAsking : Effect → Bool
  | call .control .received => true
  | call .control (.sent _) => true
  | sink _ => true
  | _ => false

/-- Whether a request is sent. -/
def isRequest : Effect → Bool
  | call .control (.sent _) => true
  | _ => false

/-- Whether a filter is to be taken out of force. -/
def isDetach : Effect → Bool
  | call _ .detached => true
  | _ => false

/-- Listening neither sends a request nor takes the filter out of force. -/
theorem quiet_of_ofListening {effect : Effect} (h : effect.ofListening = true) :
    effect.isRequest = false ∧ effect.isDetach = false := by
  unfold ofListening at h
  split at h <;> simp_all [isRequest, isDetach]

/-- Asking does not take the filter out of force. -/
theorem isDetach_of_ofAsking {effect : Effect} (h : effect.ofAsking = true) :
    effect.isDetach = false := by
  unfold ofAsking at h
  split at h <;> simp_all [isDetach]

theorem countP_isRequest_eq_zero {trace : List Effect}
    (h : ∀ effect ∈ trace, effect.isRequest = false) : trace.countP isRequest = 0 := by
  rw [List.countP_eq_zero]
  intro effect heffect
  simp [h effect heffect]

end Effect

namespace Session

/-! ## Two kinds of work -/

/-- What listening on the event connection leaves as it is. -/
structure Listened (s s' : Session) (trace : List Effect) : Prop where
  control : s'.control = s.control
  filter : s'.filter = s.filter
  program : s'.event.socket.filter = s.event.socket.filter
  rule : s'.event.socket.filterRule = s.event.socket.filterRule
  effects : ∀ effect ∈ trace, effect.ofListening = true

/-- What requests on the control connection leave as it is. -/
structure Asked (s s' : Session) (trace : List Effect) : Prop where
  event : s'.event = s.event
  filter : s'.filter = s.filter
  seq : s'.control.socket.nextSeq =
    s.control.socket.nextSeq + UInt32.ofNat (trace.countP Effect.isRequest)
  effects : ∀ effect ∈ trace, effect.ofAsking = true

/-- What is done to a capture asks nothing. -/
theorem Asked.of_sink {s s' : Session} {trace : List Effect} (hevent : s'.event = s.event)
    (hfilter : s'.filter = s.filter)
    (hseq : s'.control.socket.nextSeq = s.control.socket.nextSeq)
    (htrace : ∀ effect ∈ trace, ∃ call, effect = .sink call) : Asked s s' trace := by
  have hcapture : ∀ effect ∈ trace, effect.isRequest = false ∧ effect.ofAsking = true := by
    intro effect heffect
    obtain ⟨call, rfl⟩ := htrace effect heffect
    exact ⟨rfl, rfl⟩
  have hnone := Effect.countP_isRequest_eq_zero fun effect heffect => (hcapture effect heffect).1
  refine ⟨hevent, hfilter, ?_, fun effect heffect => (hcapture effect heffect).2⟩
  rw [hseq, hnone]
  exact (UInt32.add_zero _).symm

/-- Asking twice takes the sequence numbers of both. -/
theorem Asked.trans {s s' s'' : Session} {trace trace' : List Effect} (h : Asked s s' trace)
    (h' : Asked s' s'' trace') : Asked s s'' (trace ++ trace') := by
  refine ⟨h'.event.trans h.event, h'.filter.trans h.filter, ?_, ?_⟩
  · rw [h'.seq, h.seq, List.countP_append, UInt32.ofNat_add, UInt32.add_assoc]
  · intro effect heffect
    exact (List.mem_append.mp heffect).elim (h.effects effect) (h'.effects effect)

/-- A request is sent, and then only its reply is received and written to a capture. -/
theorem Asked.of_request {s s' : Session} {data : Bytes} {trace : List Effect}
    (hevent : s'.event = s.event) (hfilter : s'.filter = s.filter)
    (hseq : s'.control.socket.nextSeq = s.control.socket.nextSeq + 1)
    (htrace : ∀ effect ∈ trace, effect = .call .control .received ∨ ∃ call, effect = .sink call) :
    Asked s s' (.call .control (.sent data) :: trace) := by
  have hreply : ∀ effect ∈ trace, effect.isRequest = false ∧ effect.ofAsking = true := by
    intro effect heffect
    rcases htrace effect heffect with rfl | ⟨call, rfl⟩
    · exact ⟨rfl, rfl⟩
    · exact ⟨rfl, rfl⟩
  have hnone := Effect.countP_isRequest_eq_zero fun effect heffect => (hreply effect heffect).1
  have hone : (.call .control (.sent data) :: trace).countP Effect.isRequest = 1 := by
    rw [List.countP_cons_of_pos rfl, hnone]
  refine ⟨hevent, hfilter, ?_, ?_⟩
  · rw [hseq, hone]
    rfl
  · rw [List.forall_mem_cons]
    exact ⟨rfl, fun effect heffect => (hreply effect heffect).2⟩

/-! ## Listening -/

theorem listened_setMode (mode : Mode) (s : Session) :
    Listened s (setMode mode s).state (setMode mode s).trace := by
  obtain ⟨mode', result, hswitch⟩ := Socket.setMode_eq mode s.event.socket
  rw [setMode, onEvent_eq, hswitch]
  exact ⟨rfl, rfl, rfl, rfl, by simp [Effect.ofListening]⟩

/-- Dispatching only listens. -/
theorem listened_dispatch (mode : Mode) (handlers : Handlers σ β) (s : Session) (x : σ) :
    Listened s (dispatch mode handlers (s, x)).state.1 (dispatch mode handlers (s, x)).trace := by
  obtain ⟨mode', made, queue, ready, hstate, -⟩ := exists_frame_dispatch mode handlers s x
  rw [hstate]
  refine ⟨rfl, rfl, rfl, rfl, ?_⟩
  rw [dispatch_eq_pump]
  simp only [List.mem_map]
  rintro _ ⟨call, hcall, rfl⟩
  rcases Socket.trace_pump _ _ _ _ _ call hcall with rfl | rfl
  · rfl
  · rfl

/-! ## Asking -/

/-- Listing the groups only asks, whatever comes back. -/
theorem asked_forEachGroup (visit : Visitor GroupDescriptor σ β) (s : Session) (x : σ) :
    Asked s (forEachGroup visit (s, x)).state.1 (forEachGroup visit (s, x)).trace := by
  have hseq := nextSeq_forEachGroup visit s x
  rw [forEachGroup_eq] at hseq ⊢
  cases hsent : (Socket.send s.control.listRequest.finish s.control.socket).result with
  | error e => exact Asked.of_request rfl rfl rfl (by simp)
  | ok _ =>
    have htrace := Socket.trace_exchange s.control.socket.nextSeq
      (Error.during "dump psample groups") (groupVisitor visit).onMessage
      s.control.requested.socket x
    simp only [hsent] at hseq
    refine Asked.of_request rfl rfl hseq ?_
    simp only [List.mem_map]
    rintro _ ⟨call, hcall, rfl⟩
    rw [htrace call hcall]
    exact Or.inl rfl

theorem asked_groups (s : Session) : Asked s (groups s).state (groups s).trace :=
  asked_forEachGroup _ s []

theorem asked_recordDescription (s : Session) (capture : Capture) :
    Asked s (recordDescription (s, capture)).state.1 (recordDescription (s, capture)).trace := by
  rw [recordDescription_eq]
  cases (Socket.send s.control.describeRequest.finish s.control.socket).result with
  | error e => exact Asked.of_request rfl rfl rfl (by simp)
  | ok _ =>
    obtain ⟨⟨queue, ready, hstate⟩, htrace⟩ := record_frame .control
      (replyProceeds s.control.socket.nextSeq) s.control.requested.socket capture
    refine Asked.of_request rfl rfl ?_ htrace
    simp only [hstate]
    rfl

/-- Starting a capture only asks, be it with an error. -/
theorem asked_startCapture (sink : Sink) (snaplen : UInt32) (clock : Clock) (s : Session) :
    Asked s (startCapture sink snaplen clock s).state
      (startCapture sink snaplen clock s).trace := by
  unfold startCapture
  split_ifs
  · exact Asked.of_sink rfl rfl rfl (by simp)
  · cases Capture.start sink snaplen clock with
    | error e => exact Asked.of_sink rfl rfl rfl (by simp)
    | ok capture =>
      have hasked := asked_recordDescription s capture
      dsimp only
      cases (recordDescription (s, capture)).result with
      | error e => exact hasked.trans (Asked.of_sink rfl rfl rfl (by simp))
      | ok _ => exact ⟨hasked.event, hasked.filter, hasked.seq, hasked.effects⟩

/-- Starting a capture in a file only asks, whatever becomes of the file. -/
theorem asked_startCaptureFile (path : String) (clock : Clock) (s : Session) :
    Asked s (startCaptureFile path clock s).state (startCaptureFile path clock s).trace := by
  unfold startCaptureFile
  by_cases hcapture : s.capture.isSome
  · rw [if_pos hcapture]
    exact Asked.of_sink rfl rfl rfl (by simp)
  · rw [if_neg hcapture]
    cases Path.openWriter path with
    | error failure => exact Asked.of_sink rfl rfl rfl (by simp)
    | ok writer =>
      have hwritten : ∀ effect ∈ (if Path.isStandardOutput path then [] else
          [Effect.sink (.created path)]) ++
            (PcapFile.create Capture.defaultSnaplen writer).trace.map (Effect.sink ∘ .written),
          ∃ call, effect = .sink call := by
        intro effect heffect
        rcases List.mem_append.mp heffect with hopened | hwrote
        · split_ifs at hopened <;> simp_all
        · obtain ⟨data, -, rfl⟩ := List.mem_map.mp hwrote
          exact ⟨_, rfl⟩
      dsimp only
      cases (PcapFile.create Capture.defaultSnaplen writer).result with
      | error e => exact Asked.of_sink rfl rfl rfl hwritten
      | ok file =>
        exact (Asked.of_sink rfl rfl rfl hwritten).trans (asked_startCapture _ _ clock s)

theorem asked_finishCapture (s : Session) :
    Asked s (finishCapture s).state (finishCapture s).trace := by
  unfold finishCapture releaseCapture
  cases s.capture with
  | none => exact Asked.of_sink rfl rfl rfl (by simp)
  | some capture => exact Asked.of_sink rfl rfl rfl (by simp)

theorem listened_recordEvents (s : Session) :
    Listened s (recordEvents s).state (recordEvents s).trace := by
  unfold recordEvents
  cases s.capture with
  | none => exact ⟨rfl, rfl, rfl, rfl, by simp⟩
  | some capture =>
    have hswitched := listened_setMode .blocking s
    dsimp only
    cases (setMode .blocking s).result with
    | error e => exact hswitched
    | ok _ =>
      obtain ⟨⟨queue, ready, hstate⟩, htrace⟩ := record_frame .event (fun _ => .ok true)
        (setMode .blocking s).state.event.socket capture
      refine ⟨hswitched.control, hswitched.filter, ?_, ?_, ?_⟩
      · simp only [hstate]
        exact hswitched.program
      · simp only [hstate]
        exact hswitched.rule
      · intro effect heffect
        rcases List.mem_append.mp heffect with hswitch | hrecorded
        · exact hswitched.effects effect hswitch
        · rcases htrace effect hrecorded with rfl | ⟨call, rfl⟩
          · rfl
          · rfl

/-! ## Tasks -/

/-- Something that happens to a session. -/
inductive Task : Type 1
  /-- Arrivals are queued on one connection. -/
  | arrive (side : Side) (items : List Arrival)
  /-- A multicast datagram reaches the event connection and its filter. -/
  | multicast (data : Bytes)
  | bind (group : UInt32)
  | setMode (mode : Mode)
  | dispatch {σ β : Type} (mode : Mode) (handlers : Handlers σ β) (x : σ)
  | dispatchEvents {σ β : Type} (mode : Mode) (visit : Visitor Event σ β) (x : σ)
  | forEachGroup {σ β : Type} (visit : Visitor GroupDescriptor σ β) (x : σ)
  | groups
  | startCapture (sink : Sink) (snaplen : UInt32) (clock : Clock)
  | startCaptureFile (path : String) (clock : Clock)
  | recordEvents
  | finishCapture

/-- A run without the visitor that it served and without its result. -/
def settled (ran : Ran Effect (Session × σ) α) : Ran Effect Session Unit :=
  ⟨ran.state.1, ran.trace, ran.result.map fun _ => ()⟩

namespace Task

/-- What a task does. -/
def run : Task → Act Unit
  | arrive .event items =>
    Action.modify fun s => s.withSocket (s.event.socket.deliver items)
  | arrive .control items =>
    Action.modify fun s =>
      { s with control := { s.control with socket := s.control.socket.deliver items } }
  | multicast data => Action.modify fun s => s.withSocket (s.event.socket.multicast data).1
  | bind group => bindGroup group
  | setMode mode => Session.setMode mode
  | dispatch mode handlers x => fun s => settled (Session.dispatch mode handlers (s, x))
  | dispatchEvents mode visit x => fun s => settled (Session.dispatchEvents mode visit (s, x))
  | forEachGroup visit x => fun s => settled (Session.forEachGroup visit (s, x))
  | groups => fun s =>
    let ran := Session.groups s
    ⟨ran.state, ran.trace, ran.result.map fun _ => ()⟩
  | startCapture sink snaplen clock => Session.startCapture sink snaplen clock
  | startCaptureFile path clock => Session.startCaptureFile path clock
  | recordEvents => Session.recordEvents
  | finishCapture => Session.finishCapture

/-- A task binds the session to a group, or it listens, or it asks. -/
theorem kind (task : Task) (s : Session) :
    (∃ group, task = bind group) ∨ Listened s (task.run s).state (task.run s).trace ∨
      Asked s (task.run s).state (task.run s).trace := by
  cases task with
  | arrive side items =>
    cases side with
    | event => exact Or.inr (Or.inl ⟨rfl, rfl, rfl, rfl, by simp [run, Action.modify]⟩)
    | control => exact Or.inr (Or.inr (Asked.of_sink rfl rfl rfl (by simp [run, Action.modify])))
  | multicast data =>
    obtain ⟨queue, ready, hsocket⟩ := Socket.exists_multicast data s.event.socket
    refine Or.inr (Or.inl ⟨rfl, rfl, ?_, ?_, by simp [run, Action.modify]⟩)
    · simp only [run, Action.modify, hsocket]
      rfl
    · simp only [run, Action.modify, hsocket]
      rfl
  | bind group => exact Or.inl ⟨group, rfl⟩
  | setMode mode => exact Or.inr (Or.inl (listened_setMode mode s))
  | dispatch mode handlers x => exact Or.inr (Or.inl (listened_dispatch mode handlers s x))
  | dispatchEvents mode visit x =>
    rw [run, dispatchEvents_eq_dispatch]
    exact Or.inr (Or.inl (listened_dispatch mode _ s x))
  | forEachGroup visit x => exact Or.inr (Or.inr (asked_forEachGroup visit s x))
  | groups => exact Or.inr (Or.inr (asked_groups s))
  | startCapture sink snaplen clock =>
    exact Or.inr (Or.inr (asked_startCapture sink snaplen clock s))
  | startCaptureFile path clock => exact Or.inr (Or.inr (asked_startCaptureFile path clock s))
  | recordEvents => exact Or.inr (Or.inl (listened_recordEvents s))
  | finishCapture => exact Or.inr (Or.inr (asked_finishCapture s))

end Task

/-- The session behind tasks. -/
def afterAll : List Task → Session → Session
  | [], s => s
  | task :: rest, s => afterAll rest (task.run s).state

/-- What is done to the outside in a run of tasks. -/
def traceAll : List Task → Session → List Effect
  | [], _ => []
  | task :: rest, s => (task.run s).trace ++ traceAll rest (task.run s).state

/-- Tasks can be done in two parts. -/
theorem afterAll_append (first rest : List Task) (s : Session) :
    afterAll (first ++ rest) s = afterAll rest (afterAll first s) := by
  induction first generalizing s with
  | nil => rfl
  | cons task tasks ih => exact ih (task.run s).state

end Session
end SampleTap
