import SampleTap.CommandHeader
import SampleTap.Message.Batch
import SampleTap.Socket

/-!
# Receiving loops

Two ways of taking datagrams off a socket and showing their messages to a visitor with a state of
its own.

* `Socket.pump` reads notifications: in blocking mode one datagram, else every datagram there is. A
  `turn` is one datagram's worth of it.
* `Socket.exchange` reads the reply to a request until it is complete.

Either ends at an empty datagram's turn, a visitor's wish or an error, and leaves later arrivals in
the queue.
-/

namespace SampleTap

/-- A visitor of messages by command and attributes. -/
abbrev CommandVisitor (σ β : Type) := σ → UInt8 → Bytes → σ × Except Error (Flow β)

/-- Splits the payload of each message for a visitor. -/
def CommandVisitor.onMessage {σ β : Type} (visit : CommandVisitor σ β) (x : σ) (m : Message) :
    σ × Except Error (Flow β) :=
  match CommandHeader.split? m.payload with
  | some (header, attributes) => visit x header.command attributes
  | none => (x, .error (.invalidMessage .commandHeaderShort))

/-- Splits the payload of each message of one type for a visitor, and passes over the others. -/
def CommandVisitor.onType {σ β : Type} (type : UInt16) (visit : CommandVisitor σ β) (x : σ)
    (m : Message) : σ × Except Error (Flow β) :=
  if m.header.type = type then visit.onMessage x m else (x, .ok .proceed)

namespace Socket

variable {σ β : Type}

/-! ## Notifications -/

/-- What one turn of a pump says about the next. -/
inductive Turn (β : Type)
  | again
  | over (flow : Flow β)

/-- Receives one datagram and visits its messages of one type. -/
def turn (type : UInt16) (mode : Mode) (visit : CommandVisitor σ β) :
    Action Call (Socket × σ) (Turn β) := fun (s, x) =>
  let received := receive s
  match received.result with
  | .error e =>
    ⟨(received.state, x), received.trace,
      if mode = .nonBlocking ∧ e.isWouldBlock then .ok (.over .proceed) else .error e⟩
  | .ok data =>
    if data.isEmpty then ⟨(received.state, x), received.trace, .ok (.over .proceed)⟩
    else
      match Batch.run none (visit.onType type) x data with
      | (x, .error e) => ⟨(received.state, x), received.trace, .error e⟩
      | (x, .ok (.stopped value)) =>
        ⟨(received.state, x), received.trace, .ok (.over (.stop value))⟩
      | (x, .ok _) => ⟨(received.state, x), received.trace, .ok .again⟩

theorem turn_shorter {type : UInt16} {mode : Mode} {visit : CommandVisitor σ β} {s : Socket}
    {x : σ} (h : (turn type mode visit (s, x)).result = .ok .again) :
    (turn type mode visit (s, x)).state.1.queue.length < s.queue.length := by
  unfold turn at h ⊢
  cases hr : (receive s).result with
  | error e =>
    simp only [hr] at h
    split at h <;> simp at h
  | ok data =>
    have := receive_shorter hr
    simp only [hr] at h ⊢
    split
    · exact this
    · split <;> exact this

/-- Takes turns until one says that it was the last. -/
def drain (type : UInt16) (visit : CommandVisitor σ β) (s : Socket) (x : σ) :
    Ran Call (Socket × σ) (Flow β) :=
  let t := turn type .nonBlocking visit (s, x)
  match h : t.result with
  | .error e => ⟨t.state, t.trace, .error e⟩
  | .ok (.over flow) => ⟨t.state, t.trace, .ok flow⟩
  | .ok .again =>
    have : t.state.1.queue.length < s.queue.length := turn_shorter h
    (drain type visit t.state.1 t.state.2).after t.trace
termination_by s.queue.length

/-- Switches to a mode and visits the messages of one type: of one datagram in blocking mode, of
every datagram otherwise. -/
def pump (type : UInt16) (mode : Mode) (visit : CommandVisitor σ β) :
    Action Call (Socket × σ) (Flow β) := do
  Action.on Prod.fst (fun sx s => (s, sx.2)) id (setMode mode)
  match mode with
  | .blocking =>
    match ← turn type mode visit with
    | .again => return .proceed
    | .over flow => return flow
  | .nonBlocking => fun (s, x) => drain type visit s x

/-! ## Replies -/

/-- Receives datagrams and visits their messages that belong to the request numbered `seq`, until
the reply is complete. `explain` turns an error that a datagram causes into the error reported. -/
def exchange (seq : UInt32) (explain : Error → Error)
    (visit : σ → Message → σ × Except Error (Flow β)) (s : Socket) (x : σ) :
    Ran Call (Socket × σ) (Flow β) :=
  let received := receive s
  match h : received.result with
  | .error e => ⟨(received.state, x), received.trace, .error e⟩
  | .ok data =>
    match Batch.run (some seq) visit x data with
    | (x, .error e) => ⟨(received.state, x), received.trace, .error (explain e)⟩
    | (x, .ok (.stopped value)) => ⟨(received.state, x), received.trace, .ok (.stop value)⟩
    | (x, .ok .done) => ⟨(received.state, x), received.trace, .ok .proceed⟩
    | (x, .ok .more) =>
      have : received.state.queue.length < s.queue.length := receive_shorter h
      (exchange seq explain visit received.state x).after received.trace
termination_by s.queue.length

end Socket

end SampleTap
