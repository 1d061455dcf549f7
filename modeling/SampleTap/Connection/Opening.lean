import SampleTap.Connection
import SampleTap.Socket.Receiving

/-!
# Opening connections

How a connection comes about. A peer of its own can hand out a connection that knows its family; a
netlink socket is created, gets its address and asks the controller for the family by name. A socket
that was created is closed again when a later step fails.
-/

namespace SampleTap

/-- An attempt to open something: what was done, and what came of it. -/
structure Opening (ε α : Type) where
  trace : List ε
  result : Except Error α

/-! ## The controller -/

namespace Controller

/-- The number of the controller's own family. -/
def family : UInt16 := 16

/-- The command that asks for a family. -/
def getFamily : UInt8 := 3

/-- The version of the controller's protocol. -/
def version : UInt8 := 1

/-- The flags of a request for a family. -/
def flags : UInt16 := Message.requestFlag ||| Message.ackFlag

/-- The request for the family named `name`. -/
def request (name : String) (seq sender : UInt32) : MessageBuilder :=
  let start : MessageBuilder := { type := family, flags, seq, sender }
  (start.appendCommand { command := getFamily, version }).attrText Family.nameAttr name

/-- Keeps the family that a message of the controller describes. -/
def keepFamily : CommandVisitor (Option Family) Empty := fun kept _ attributes =>
  match Family.parse attributes with
  | .ok family => (some family, .ok .proceed)
  | .error e => (kept, .error e)

/-- The error of a request for the family named `name` that a reply refused. -/
def explain (name : String) (e : Error) : Error :=
  if e.isNotFound then .familyNotFound name else e.during ("resolve family " ++ name)

end Controller

namespace Socket

/-- The netlink protocol of generic families. -/
def genericProtocol : Nat := 16

/-- The size of a receive buffer that is not given. -/
def defaultCapacity : Nat := 128 * 1024

/-- How long a datagram a buffer of a given size receives whole; an empty buffer grows to 64 bytes
when it is first used. -/
def capacityOf (size : Nat) : Nat := if size = 0 then 64 else size

/-- Gives a socket an address and asks for it. -/
def takeAddress : Act Unit := do
  call .bindAddress [] (pure ())
  call .readAddress [] (pure ())

/-- A socket as it is when new, with a receive buffer of a given size. -/
def fresh (bufferSize : Nat) (peer : Socket) : Socket :=
  { peer with
    nextSeq := 1
    mode := .initial
    capacity := some (capacityOf bufferSize)
    filterRule := .bounded }

/-- Creates a socket and gets its address; `peer` says how that goes. -/
def create (bufferSize : Nat) (peer : Socket) : Opening Call Socket :=
  let created := call .create [.created genericProtocol] (pure ()) (fresh bufferSize peer)
  match created.result with
  | .error e => ⟨created.trace, .error e⟩
  | .ok () =>
    let addressed := takeAddress created.state
    match addressed.result with
    | .error e => ⟨created.trace ++ addressed.trace ++ [.closed], .error e⟩
    | .ok () => ⟨created.trace ++ addressed.trace, .ok addressed.state⟩

/-- Asks the controller for the family named `name`. The last description before the reply's end
counts. -/
def resolve (name : String) : Act Family := do
  let seq ← takeSeq
  let s ← Action.get
  send (Controller.request name seq s.address).finish
  fun s =>
    let ran := exchange seq (Controller.explain name)
      (Controller.keepFamily.onType Controller.family) s none
    ⟨ran.state.1, ran.trace,
      match ran.result, ran.state.2 with
      | .error e, _ => .error e
      | .ok _, some family => .ok family
      | .ok _, none => .error (.familyNotFound name)⟩

end Socket

namespace Connection

/-- Opens a connection that a peer hands out. -/
def accept (peer : Connection) : Opening Call Connection :=
  match peer.socket.faults peer.socket.made .create with
  | some errno => ⟨[], .error (.os errno)⟩
  | none =>
    ⟨[.connected],
      .ok { peer with socket := { peer.socket with made := peer.socket.made + 1 } }⟩

/-- Opens a socket and resolves the family named `name`, to speak a version of its protocol. -/
def openSocket (name : String) (version : UInt8) (bufferSize : Nat) (peer : Socket) :
    Opening Call Connection :=
  let created := Socket.create bufferSize peer
  match created.result with
  | .error e => ⟨created.trace, .error e⟩
  | .ok socket =>
    let resolved := Socket.resolve name socket
    match resolved.result with
    | .error e => ⟨created.trace ++ resolved.trace ++ [.closed], .error e⟩
    | .ok family => ⟨created.trace ++ resolved.trace, .ok ⟨resolved.state, family, version⟩⟩

end Connection

end SampleTap
