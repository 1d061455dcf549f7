import SampleTap.Record
import SampleTap.Session

/-!
# Notifications and groups

How a session shows notifications to visitors, one for every event or one for each kind, and how it
asks for the sampling groups. A visitor carries a state of its own and can end the visit.
-/

namespace SampleTap

/-! ## Handlers -/

/-- A visitor for samples and one for changes to groups, either of which may be missing. A sample
without a visitor of its own goes to the other; what no visitor accepts is discarded unread. -/
structure Handlers (σ β : Type) where
  sample : Option (Visitor SampleView σ β) := none
  config : Option (Visitor ConfigView σ β) := none

namespace Handlers

variable {σ β : Type}

/-- Whether some visitor takes the notifications of a command. -/
def accepts (h : Handlers σ β) (code : UInt8) : Bool :=
  (code == Command.sample.code && h.sample.isSome) || h.config.isSome

/-- Shows a notification to the visitor that takes it. -/
def invoke (h : Handlers σ β) (x : σ) (code : UInt8) (table : AttrTable) : σ × Flow β :=
  let other (_ : Unit) : σ × Flow β :=
    match h.config with
    | some visit => visit x ⟨code, table⟩
    | none => (x, .proceed)
  if code = Command.sample.code then
    match h.sample with
    | some visit => visit x ⟨table⟩
    | none => other ()
  else other ()

/-- Reads the notifications that some visitor takes. -/
def onCommand (h : Handlers σ β) : CommandVisitor σ β := fun x code attributes =>
  if h.accepts code then
    match AttrTable.parse attributes with
    | .error e => (x, .error e)
    | .ok table =>
      let (x, flow) := h.invoke x code table
      (x, .ok flow)
  else (x, .ok .proceed)

end Handlers

namespace Session

variable {σ β : Type}

/-! ## Notifications -/

/-- Reads every notification for a visitor of events. -/
def eventVisitor (visit : Visitor Event σ β) : CommandVisitor σ β := fun x code attributes =>
  match AttrTable.parse attributes with
  | .error e => (x, .error e)
  | .ok table =>
    let (x, flow) := visit x (.classify code table)
    (x, .ok flow)

/-- Receives notifications on the event connection: one datagram in blocking mode, every datagram
otherwise. -/
def pump (mode : Mode) (visit : CommandVisitor σ β) : Action Effect (Session × σ) (Flow β) :=
  fun (s, x) =>
    Action.on (fun (s, x) => (s.event.socket, x))
      (fun (s, _) (socket, x) => ({ s with event := { s.event with socket := socket } }, x))
      (.call .event) (Socket.pump s.event.family.id mode visit) (s, x)

/-- Receives notifications and shows them to the handlers. -/
def dispatch (mode : Mode) (handlers : Handlers σ β) : Action Effect (Session × σ) (Flow β) :=
  pump mode handlers.onCommand

/-- Receives notifications and shows every event to one visitor. -/
def dispatchEvents (mode : Mode) (visit : Visitor Event σ β) :
    Action Effect (Session × σ) (Flow β) :=
  pump mode (eventVisitor visit)

/-! ## Groups -/

/-- Reads every record of a list of groups. -/
def groupVisitor (visit : Visitor GroupDescriptor σ β) : CommandVisitor σ β :=
  fun x _ attributes =>
    match AttrTable.parse attributes >>= GroupDescriptor.ofTable with
    | .error e => (x, .error e)
    | .ok group =>
      let (x, flow) := visit x group
      (x, .ok flow)

/-- The flags of a request for the list of groups. -/
def listFlags : UInt16 := Message.requestFlag ||| Message.ackFlag ||| Message.dumpFlag

/-- Sends the request for the list of groups and gives its sequence number. -/
def requestGroups : Connection.Act UInt32 := do
  let request ← Connection.prepareFamily Command.getGroup.code listFlags
  Connection.onSocket (Socket.send request.finish)
  return request.seq

/-- Asks for the list of groups and shows each to a visitor. -/
def forEachGroup (visit : Visitor GroupDescriptor σ β) : Action Effect (Session × σ) (Flow β) :=
  Action.on (fun (s, x) => (s.control, x)) (fun (s, _) (control, x) => ({ s with control }, x))
    (.call .control) do
      let seq ← Action.on Prod.fst (fun cx c => (c, cx.2)) id requestGroups
      Action.on (fun (c, x) => (c.socket, x)) (fun (c, _) (socket, x) => ({ c with socket }, x)) id
        fun (socket, x) =>
          Socket.exchange seq (Error.during "dump psample groups") (groupVisitor visit).onMessage
            socket x

/-- The list of groups. -/
def groups : Act (List GroupDescriptor) := fun s =>
  let visit : Visitor GroupDescriptor (List GroupDescriptor) Empty := fun found group =>
    (found ++ [group], .proceed)
  let ran := forEachGroup visit (s, [])
  ⟨ran.state.1, ran.trace, ran.result.map fun _ => ran.state.2⟩

end Session

end SampleTap
