import SampleTap.Proofs.Message.Batch
import SampleTap.Proofs.Session.Calls

/-!
# The tables that events are made of

Whatever the handlers are, an event that they are handed is made of the table of some message of the
datagram, a notification of the session's family (`mem_handedBy`). Conversely a visitor of events is
handed such a message when it is the only one of its datagram (`exists_handedBy_ofEvents`).
-/

namespace SampleTap

variable {σ β ε : Type}

/-! ## The group of an event -/

namespace Event

/-- The table of an event. -/
def table : Event → AttrTable
  | sample view => view.table
  | config view => view.table

@[simp] theorem table_classify (code : UInt8) (t : AttrTable) : (classify code t).table = t := by
  unfold classify
  split <;> rfl

/-- Whether an event has no group or a given one. -/
def InGroup (group : UInt32) : Event → Prop
  | sample view => view.hasGroup → view.group = .ok group
  | config view => view.hasGroup → view.group = .ok group

/-- An event is in a group unless it carries another group's number, or an attribute that cannot be
read as one. -/
theorem inGroup_iff {group : UInt32} {e : Event} :
    e.InGroup group ↔ (e.table.contains .sampleGroup → e.table.u32? .sampleGroup = some group) := by
  have hpresent (value? : Option UInt32) :
      present "group" value? = .ok group ↔ value? = some group := by
    cases value? <;> simp [present]
  cases e <;> simp [InGroup, table, SampleView.hasGroup, SampleView.group, ConfigView.hasGroup,
    ConfigView.group, hpresent]

end Event

/-! ## Messages for a visitor -/

/-- What a logging visitor writes down about a batch, it writes down about one of its messages. -/
theorem CommandVisitor.Logs.mem_runMessages {plain : CommandVisitor σ β}
    {logging : CommandVisitor (σ × List ε) β} (h : plain.Logs logging) {type : UInt16}
    {fault? : Option Error} {messages : List Message} {x : σ} {e : ε}
    (he : e ∈ (Batch.runMessages none (logging.onType type) fault? (x, []) messages).1.2) :
    ∃ m ∈ messages, m.header.isControl = false ∧ ∃ y, e ∈ (logging.onType type (y, []) m).1.2 := by
  induction messages generalizing x with
  | nil => cases fault? <;> simp [Batch.runMessages] at he
  | cons m rest ih =>
    -- What is written down about the rest is about a message of the whole.
    have hrest (y : σ)
        (he : e ∈ (Batch.runMessages none (logging.onType type) fault? (y, []) rest).1.2) :
        ∃ m' ∈ m :: rest, m'.header.isControl = false ∧
          ∃ y, e ∈ (logging.onType type (y, []) m').1.2 := by
      obtain ⟨m', hm', hlog⟩ := ih he
      exact ⟨m', List.mem_cons_of_mem _ hm', hlog⟩
    by_cases hcontrol : m.header.isControl
    -- A control message is not shown to the visitor: the batch skips it or ends.
    · simp only [Message.Header.isControl, decide_eq_true_eq] at hcontrol
      simp only [Batch.runMessages, Batch.relevant, Bool.not_true, Bool.false_eq_true,
        if_false] at he
      split_ifs at he with hskip herror hdone
      · exact hrest x he
      · simp at he
      · simp at he
      · exact absurd hcontrol (by simpa [herror, hdone, not_or] using hskip)
    · rw [Bool.not_eq_true] at hcontrol
      have hvisit := h.onType type x [] m
      rw [List.nil_append] at hvisit
      rw [Batch.runMessages_cons hcontrol, hvisit] at he
      rcases hplain : plain.onType type x m with ⟨y, e' | _ | value⟩
      all_goals simp only [hplain] at he
      · exact ⟨m, List.mem_cons_self, hcontrol, x, he⟩
      · rw [h.runMessages] at he
        rcases List.mem_append.mp he with hhere | hlater
        · exact ⟨m, List.mem_cons_self, hcontrol, x, hhere⟩
        · exact hrest y hlater
      · exact ⟨m, List.mem_cons_self, hcontrol, x, he⟩

/-! ## Notifications -/

namespace Session

/-- Whether a message is a notification of the session's family with a given table. -/
structure Notifies (s : Session) (m : Message) (t : AttrTable) : Prop where
  data : m.header.isControl = false
  type : m.header.type = s.event.family.id
  table : ∃ command attributes, CommandHeader.split? m.payload = some (command, attributes) ∧
    AttrTable.parse attributes = .ok t

end Session

theorem Handlers.recording_ofEvents (visit : Visitor Event σ β) :
    (Handlers.ofEvents visit).recording =
      .ofEvents fun x event => (((visit x.1 event).1, x.2 ++ [event]), (visit x.1 event).2) := rfl

/-- Recording handlers write down events that are made of the table of the message. -/
theorem Handlers.parse_of_mem_recording {h : Handlers σ β} {x : σ} {code : UInt8}
    {attributes : Bytes} {e : Event}
    (he : e ∈ (h.recording.onCommand (x, []) code attributes).1.2) :
    AttrTable.parse attributes = .ok e.table := by
  simp only [onCommand] at he
  split_ifs at he
  · cases hparse : AttrTable.parse attributes with
    | error e' => simp [hparse] at he
    | ok t =>
      simp only [hparse, invoke, recording] at he
      by_cases hcode : code = Command.sample.code
      · cases hs : h.sample <;> cases hc : h.config <;>
          simp [hs, hc, hcode] at he <;> simp [he, Event.table]
      · cases hc : h.config <;> simp [hc, hcode] at he
        simp [he, Event.table]
  · simp at he

namespace Session

/-- An event that handlers are handed because of a datagram is made of one of its notifications. -/
theorem mem_handedBy {s : Session} {h : Handlers σ β} {x : σ} {arrival : Arrival} {data : Bytes}
    {e : Event} (he : (data, e) ∈ s.handedBy h x arrival) :
    Socket.read s.event.socket.capacity arrival = .ok data ∧
      ∃ m ∈ (Message.split data).1, s.Notifies m e.table := by
  unfold handedBy at he
  cases hread : Socket.read s.event.socket.capacity arrival with
  | error e' => simp [hread] at he
  | ok data' =>
    simp only [hread, List.mem_map, Prod.mk.injEq] at he
    obtain ⟨e', he, rfl, rfl⟩ := he
    obtain ⟨m, hm, hdata, y, hlog⟩ := h.logs_recording.mem_runMessages he
    -- About a message of another type nothing is written down.
    have htype : m.header.type = s.event.family.id := by
      by_cases htype : m.header.type = s.event.family.id
      · exact htype
      · simp [CommandVisitor.onType, htype] at hlog
    rw [CommandVisitor.onType, if_pos htype, CommandVisitor.onMessage] at hlog
    refine ⟨rfl, m, hm, hdata, htype, ?_⟩
    cases hsplit : CommandHeader.split? m.payload with
    | none => simp [hsplit] at hlog
    | some split =>
      simp only [hsplit] at hlog
      exact ⟨split.1, split.2, rfl, Handlers.parse_of_mem_recording hlog⟩

/-- A visitor of events is handed the notification that is the only message of a datagram. -/
theorem exists_handedBy_ofEvents {s : Session} {data : Bytes} {m : Message} {t : AttrTable}
    (visit : Visitor Event σ β) (x : σ)
    (hread : Socket.read s.event.socket.capacity (.datagram data) = .ok data)
    (hsplit : (Message.split data).1 = [m]) (hm : s.Notifies m t) :
    ∃ e, e.table = t ∧ (data, e) ∈ s.handedBy (.ofEvents visit) x (.datagram data) := by
  obtain ⟨command, attributes, hcommand, hparse⟩ := hm.table
  refine ⟨.classify command.command t, Event.table_classify .., ?_⟩
  simp only [handedBy, hread, Batch.run, hsplit, Batch.runMessages_cons hm.data,
    Handlers.recording_ofEvents, Handlers.onCommand_ofEvents, CommandVisitor.onType, if_pos hm.type,
    CommandVisitor.onMessage, hcommand, eventVisitor, hparse, List.nil_append]
  rcases visit x (.classify command.command t) with ⟨y, _ | value⟩
  · cases (Message.split data).2 <;> simp [Batch.runMessages]
  · simp

end Session

end SampleTap
