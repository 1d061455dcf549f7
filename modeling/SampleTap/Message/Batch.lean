import SampleTap.Message

/-!
# Batches

A received datagram is a batch of messages. `Batch.run` shows its data messages to a visitor, which
may carry a state, end the batch early or fail. Control messages are handled here: messages without
meaning are skipped, the end of a reply and an acknowledgement end the batch, and a failure report
is returned as the kernel's error. With a sequence number given, messages that carry another
non-zero one are ignored; notifications carry zero.
-/

namespace SampleTap

/-- Whether a visitor wants more. -/
inductive Flow (β : Type)
  | proceed
  /-- Ends the visit with a result. -/
  | stop (value : β)
deriving DecidableEq, Repr

/-- A visitor of `ι`s with a state `σ`. -/
abbrev Visitor (ι σ β : Type) := σ → ι → σ × Flow β

/-- How a batch ended. -/
inductive Batch (β : Type)
  /-- Every message was visited; a reply may continue in the next datagram. -/
  | more
  /-- The reply is complete. -/
  | done
  /-- The visitor ended the batch. -/
  | stopped (value : β)
deriving DecidableEq, Repr

namespace Batch

variable {σ β : Type}

/-- Whether a message belongs to the exchange with sequence number `seq?`. -/
def relevant (seq? : Option UInt32) (h : Message.Header) : Bool :=
  match seq? with
  | none => true
  | some seq => h.seq == 0 || h.seq == seq

/-- What a report on a request means for the batch it is in. -/
def ofReport (payload : Bytes) : Except Error (Batch β) :=
  match Message.Report.read payload with
  | .error e => .error e
  | .ok report => if report.isAck then .ok .done else .error (.ofReplyCode report.code)

/-- Visits messages in order; `fault?` is what follows the last of them. -/
def runMessages (seq? : Option UInt32) (visit : σ → Message → σ × Except Error (Flow β))
    (fault? : Option Error) : σ → List Message → σ × Except Error (Batch β)
  | s, [] =>
    match fault? with
    | some fault => (s, .error fault)
    | none => (s, .ok .more)
  | s, m :: rest =>
    if !relevant seq? m.header then runMessages seq? visit fault? s rest
    else if m.header.type = Message.noopType ∨ m.header.type = Message.overrunType then
      runMessages seq? visit fault? s rest
    else if m.header.type = Message.errorType then (s, ofReport m.payload)
    else if m.header.type = Message.doneType then (s, .ok .done)
    else
      match visit s m with
      | (s, .error e) => (s, .error e)
      | (s, .ok (.stop value)) => (s, .ok (.stopped value))
      | (s, .ok .proceed) => runMessages seq? visit fault? s rest

/-- Visits the messages of one datagram. -/
def run (seq? : Option UInt32) (visit : σ → Message → σ × Except Error (Flow β)) (s : σ)
    (data : Bytes) : σ × Except Error (Batch β) :=
  let (messages, fault?) := Message.split data
  runMessages seq? visit fault? s messages

end Batch

end SampleTap
