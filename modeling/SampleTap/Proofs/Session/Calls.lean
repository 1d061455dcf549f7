import Mathlib.Tactic.SplitIfs
import SampleTap.Proofs.Message
import SampleTap.Proofs.Session.Dispatch

/-!
# The calls that handlers get

`Handlers.recording` are handlers that also write down every event they are handed.
`Session.handed` says which events a dispatch hands over, each with the datagram it came from, and
`dispatch_recording` says that this is what recording handlers write down, and that writing it down
disturbs nothing.
-/

namespace SampleTap

variable {σ β ε : Type}

/-! ## Visitors with a log -/

/-- `logging` does what `plain` does, and appends to a log what does not depend on the log. -/
def CommandVisitor.Logs (plain : CommandVisitor σ β) (logging : CommandVisitor (σ × List ε) β) :
    Prop :=
  ∀ x log code attributes, logging (x, log) code attributes =
    (((plain x code attributes).1, log ++ (logging (x, []) code attributes).1.2),
      (plain x code attributes).2)

namespace CommandVisitor

variable {plain : CommandVisitor σ β} {logging : CommandVisitor (σ × List ε) β}

/-- A visitor that logs puts what it logs behind its log. -/
theorem Logs.onType (h : plain.Logs logging) (type : UInt16) (x : σ) (log : List ε) (m : Message) :
    logging.onType type (x, log) m =
      (((plain.onType type x m).1, log ++ (logging.onType type (x, []) m).1.2),
        (plain.onType type x m).2) := by
  simp only [CommandVisitor.onType, CommandVisitor.onMessage]
  by_cases htype : m.header.type = type
  · rw [if_pos htype, if_pos htype, if_pos htype]
    cases CommandHeader.split? m.payload with
    | none => simp
    | some split => exact h x log split.1.command split.2
  · simp [if_neg htype]

/-- Over the messages of a batch, too, a visitor that logs does what the plain one does, and only
adds to its log. -/
theorem Logs.runMessages (h : plain.Logs logging) (type : UInt16) (seq? : Option UInt32)
    (fault? : Option Error) (messages : List Message) (x : σ) (log : List ε) :
    Batch.runMessages seq? (logging.onType type) fault? (x, log) messages =
      (((Batch.runMessages seq? (plain.onType type) fault? x messages).1,
          log ++ (Batch.runMessages seq? (logging.onType type) fault? (x, []) messages).1.2),
        (Batch.runMessages seq? (plain.onType type) fault? x messages).2) := by
  induction messages generalizing x log with
  | nil => cases fault? <;> simp [Batch.runMessages]
  | cons m rest ih =>
    simp only [Batch.runMessages]
    split_ifs
    · exact ih x log
    · exact ih x log
    · simp
    · simp
    · rw [h.onType type x log m, h.onType type x [] m]
      -- What this message adds to the log stands in front of what the rest adds.
      generalize (logging.onType type (x, []) m).1.2 = here
      match plain.onType type x m with
      | (y, .error e) => simp
      | (y, .ok (.stop value)) => simp
      | (y, .ok .proceed) =>
        simp only [List.nil_append]
        rw [ih y (log ++ here), ih y here, List.append_assoc]

/-- What a logging visitor leaves of a datagram. -/
theorem Logs.run (h : plain.Logs logging) (type : UInt16) (seq? : Option UInt32) (x : σ)
    (log : List ε) (data : Bytes) :
    Batch.run seq? (logging.onType type) (x, log) data =
      (((Batch.run seq? (plain.onType type) x data).1,
          log ++ (Batch.run seq? (logging.onType type) (x, []) data).1.2),
        (Batch.run seq? (plain.onType type) x data).2) :=
  h.runMessages type seq? _ _ x log

end CommandVisitor

/-! ## Handlers that write down -/

namespace Handlers

/-- The handlers, which also write down every event that they are handed. -/
def recording (h : Handlers σ β) : Handlers (σ × List Event) β where
  sample := h.sample.map fun visit x view =>
    (((visit x.1 view).1, x.2 ++ [.sample view]), (visit x.1 view).2)
  config := h.config.map fun visit x view =>
    (((visit x.1 view).1, x.2 ++ [.config view]), (visit x.1 view).2)

/-- Handlers that record their events do what they do without. -/
theorem logs_recording (h : Handlers σ β) : h.onCommand.Logs h.recording.onCommand := by
  intro x log code attributes
  -- A handler is there to record exactly when it is there.
  have haccepts : h.recording.accepts code = h.accepts code := by
    simp [accepts, recording]
  simp only [onCommand, haccepts]
  by_cases ha : h.accepts code
  · rw [if_pos ha, if_pos ha, if_pos ha]
    cases AttrTable.parse attributes with
    | error e => simp
    | ok table =>
      simp only [invoke, recording]
      by_cases hcode : code = Command.sample.code
      · cases h.sample <;> cases h.config <;> simp [hcode]
      · cases h.config <;> simp [hcode]
  · simp [if_neg ha]

end Handlers

/-! ## What a dispatch hands over -/

namespace Session

/-- The events that the handlers are handed because of an arrival, with the datagram. -/
def handedBy (s : Session) (h : Handlers σ β) (x : σ) (arrival : Arrival) : List (Bytes × Event) :=
  match Socket.read s.event.socket.capacity arrival with
  | .error _ => []
  | .ok data =>
    (Batch.run none (h.recording.onCommand.onType s.event.family.id) (x, []) data).1.2.map (data, ·)

/-- The events that the handlers are handed by a pass over a queue, with their datagrams. -/
def handedFrom (s : Session) (h : Handlers σ β) : σ → List Arrival → List (Bytes × Event)
  | _, [] => []
  | x, arrival :: rest =>
    s.handedBy h x arrival ++
      match s.reactTo .nonBlocking h x arrival with
      | (x, .ok .again) => s.handedFrom h x rest
      | _ => []

/-- The events that the handlers are handed by a dispatch, with their datagrams. A blocking
dispatch looks at the first arrival only. -/
def handed (mode : Mode) (h : Handlers σ β) (s : Session) (x : σ) : List (Bytes × Event) :=
  match s.event.socket.faults s.event.socket.made .setMode, mode with
  | some _, _ => []
  | none, .blocking => s.handedFrom h x (s.event.socket.queue.take 1)
  | none, .nonBlocking => s.handedFrom h x s.event.socket.queue

/-- What a pass hands over, it hands over because of an arrival in the queue. -/
theorem mem_handedFrom {s : Session} {h : Handlers σ β} {x : σ} {queue : List Arrival}
    {p : Bytes × Event} (hp : p ∈ s.handedFrom h x queue) :
    ∃ arrival ∈ queue, ∃ y, p ∈ s.handedBy h y arrival := by
  induction queue generalizing x with
  | nil => simp [handedFrom] at hp
  | cons arrival rest ih =>
    rw [handedFrom, List.mem_append] at hp
    rcases hp with hhere | hlater
    · exact ⟨arrival, List.mem_cons_self, x, hhere⟩
    · split at hlater
      · obtain ⟨arrival', hmem, y, hp⟩ := ih hlater
        exact ⟨arrival', List.mem_cons_of_mem _ hmem, y, hp⟩
      · simp at hlater

theorem mem_handed {mode : Mode} {h : Handlers σ β} {s : Session} {x : σ} {p : Bytes × Event}
    (hp : p ∈ handed mode h s x) :
    ∃ arrival ∈ s.event.socket.queue, ∃ y, p ∈ s.handedBy h y arrival := by
  unfold handed at hp
  split at hp
  · simp at hp
  · obtain ⟨arrival, hmem, hby⟩ := mem_handedFrom hp
    exact ⟨arrival, List.mem_of_mem_take hmem, hby⟩
  · exact mem_handedFrom hp

/-- With an arrival, handlers that record do what they do without, and record what they are
handed. -/
theorem reactTo_recording (s : Session) (mode : Mode) (h : Handlers σ β) (x : σ)
    (log : List Event) (arrival : Arrival) :
    s.reactTo mode h.recording (x, log) arrival =
      (((s.reactTo mode h x arrival).1, log ++ (s.handedBy h x arrival).map Prod.snd),
        (s.reactTo mode h x arrival).2) := by
  simp only [reactTo, Socket.reaction, handedBy]
  cases Socket.read s.event.socket.capacity arrival with
  | error e => simp
  | ok data =>
    -- An empty datagram runs no batch, and a batch of no messages would log nothing.
    cases data with
    | nil => simp [Batch.run, Message.split_nil, Batch.runMessages]
    | cons b rest =>
      simp only [List.isEmpty_cons, Bool.false_eq_true, if_false, List.map_map]
      rw [h.logs_recording.run s.event.family.id none x log (b :: rest)]
      rcases Batch.run none (h.onCommand.onType s.event.family.id) x (b :: rest) with
        ⟨y, e | _ | _ | value⟩ <;>
        simp [Function.comp_def]

/-- Over a queue, handlers that record do what they do without, and record what they are handed. -/
theorem passOver_recording (s : Session) (h : Handlers σ β) (x : σ) (log : List Event)
    (queue : List Arrival) :
    s.passOver h.recording (x, log) queue =
      ⟨((s.passOver h x queue).state, log ++ (s.handedFrom h x queue).map Prod.snd),
        (s.passOver h x queue).unread, (s.passOver h x queue).result⟩ := by
  simp only [passOver]
  induction queue generalizing x log with
  | nil => simp [Socket.pass, handedFrom]
  | cons arrival rest ih =>
    -- The log does not change the reaction, so both passes end at the same arrival.
    have hreact := s.reactTo_recording .nonBlocking h x log arrival
    simp only [reactTo] at hreact
    simp only [Socket.pass, handedFrom, hreact, reactTo]
    rcases Socket.reaction s.event.family.id .nonBlocking h.onCommand s.event.socket.capacity x
      arrival with ⟨y, e | _ | flow⟩
    · simp
    · simp [ih]
    · simp

/-- Recording handlers write down what a dispatch hands over, and change nothing else. -/
theorem dispatch_recording (mode : Mode) (h : Handlers σ β) (s : Session) (x : σ)
    (log : List Event) :
    (dispatch mode h.recording (s, (x, log))).state.2 =
        ((dispatch mode h (s, x)).state.2, log ++ (handed mode h s x).map Prod.snd) ∧
      (dispatch mode h.recording (s, (x, log))).result = (dispatch mode h (s, x)).result := by
  cases hfault : s.event.socket.faults s.event.socket.made .setMode with
  | some errno =>
    obtain ⟨hstate, hresult⟩ := dispatch_error mode h x hfault
    obtain ⟨hstate', hresult'⟩ :=
      dispatch_error mode h.recording (x, log) hfault
    simp [hstate, hresult, hstate', hresult', handed, hfault]
  | none =>
    cases mode with
    | nonBlocking =>
      obtain ⟨_, hstate, hresult⟩ := dispatch_nonBlocking h x hfault
      obtain ⟨_, hstate', hresult'⟩ :=
        dispatch_nonBlocking h.recording (x, log) hfault
      simp [hstate, hresult, hstate', hresult', handed, hfault, passOver_recording]
    | blocking =>
      cases hqueue : s.event.socket.queue with
      | nil =>
        obtain ⟨hstate, hresult⟩ := dispatch_blocking_nil h x hfault hqueue
        obtain ⟨hstate', hresult'⟩ :=
          dispatch_blocking_nil h.recording (x, log) hfault hqueue
        simp [hstate, hresult, hstate', hresult', handed, hfault, hqueue, handedFrom]
      | cons arrival rest =>
        obtain ⟨hstate, hresult⟩ := dispatch_blocking_cons h x hfault hqueue
        obtain ⟨hstate', hresult'⟩ :=
          dispatch_blocking_cons h.recording (x, log) hfault hqueue
        have hone : s.handedFrom h x [arrival] = s.handedBy h x arrival := by
          rw [handedFrom]
          split <;> simp [handedFrom]
        simp [hstate, hresult, hstate', hresult', handed, hfault, hqueue, reactTo_recording, hone]

end Session

end SampleTap
