import SampleTap.Action
import SampleTap.Bpf

/-!
# Sockets

The state of one netlink socket together with what its peer will do: the arrivals in its receive
queue, and which of its system calls will fail. Every operation is logged as a `Call` before it can
fail. Nothing waits: a receive from an empty queue fails with "would block" in either mode.

`receive_shorter` says that a successful receive consumes an arrival, on which every receiving loop
rests.
-/

namespace SampleTap

/-! ## Parts of a socket -/

/-- What a receive does when the queue is empty. -/
inductive Mode
  | blocking
  | nonBlocking
deriving DecidableEq, Repr

namespace Mode

/-- The mode of a new socket. -/
def initial : Mode := blocking

/-- The mode in which a receive waits, or the one in which it does not. -/
def ofBlocking (blocks : Bool) : Mode := if blocks then blocking else nonBlocking

/-- The name of a mode. -/
def name : Mode → String
  | blocking => "Blocking"
  | nonBlocking => "NonBlocking"

end Mode

/-- What one receive will find. -/
inductive Arrival
  | datagram (data : Bytes)
  /-- The receive fails with an error number. -/
  | failure (errno : Int)
  /-- A datagram of `expected` bytes of which `actual` fit. -/
  | cut (expected actual : Nat)
  /-- Nothing yet: the receive would block, and then the socket becomes readable again. -/
  | pause
deriving DecidableEq, Repr

/-- The system calls that can be made to fail. -/
inductive Operation
  | create
  | bindAddress
  | readAddress
  | joinGroup
  | send
  | setMode
  | attach
  | detach
deriving DecidableEq, Repr

/-- A use of a socket. -/
inductive Call
  /-- A connection was made by a peer of its own. -/
  | connected
  /-- A socket of a netlink protocol was created. -/
  | created (protocol : Nat)
  | joined (group : UInt32)
  | sent (data : Bytes)
  | received
  | switched (mode : Mode)
  | attached (program : Bpf.Program)
  | detached
  | closed
deriving DecidableEq, Repr

/-- How a socket treats filter programs. -/
inductive FilterRule
  /-- Every program can be attached. -/
  | anyLength
  /-- A program must have from one to `Bpf.maxLength` instructions. -/
  | bounded
  /-- The descriptor is invalid, which is found after the check of the program's length. -/
  | invalidDescriptor
deriving DecidableEq, Repr

/-- A netlink socket and its peer. -/
structure Socket where
  /-- The socket's own address. -/
  address : UInt32 := 0
  /-- The sequence number of the next request. -/
  nextSeq : UInt32 := 1
  mode : Mode := .initial
  /-- The size of the receive buffer; `none` holds every datagram. -/
  capacity : Option Nat := none
  /-- What the next receives will find. -/
  queue : List Arrival := []
  /-- Whether the socket has been reported readable since the queue was last found empty. -/
  ready : Bool := false
  /-- The filter program that is in force. -/
  filter : Option Bpf.Program := none
  filterRule : FilterRule := .anyLength
  /-- The number of bytes that a send accepts, when it is not all of them. -/
  shortSend : Option Nat := none
  /-- The error of the call with a given ordinal, when it fails. -/
  faults : Nat → Operation → Option Int := fun _ _ => none
  /-- The number of calls that were made. -/
  made : Nat := 0

namespace Socket

/-- The actions on sockets. -/
abbrev Act (α : Type) : Type := Action Call Socket α

/-! ## Calls -/

/-- Makes a system call: it is logged, fails when it is its turn to fail, and else does its work. -/
def call (op : Operation) (logged : List Call) (work : Act Unit) : Act Unit := fun s =>
  match s.faults s.made op with
  | some errno => ⟨{ s with made := s.made + 1 }, logged, .error (.os errno)⟩
  | none => (work { s with made := s.made + 1 }).after logged

/-- Takes the next sequence number; the counter wraps around. -/
def takeSeq : Act UInt32 := fun s => ⟨{ s with nextSeq := s.nextSeq + 1 }, [], .ok s.nextSeq⟩

/-- Subscribes to a multicast group. -/
def joinGroup (group : UInt32) : Act Unit := call .joinGroup [.joined group] (pure ())

/-- Sends a message, all of it or not at all. -/
def send (data : Bytes) : Act Unit :=
  call .send [.sent data] fun s =>
    match s.shortSend with
    | some n =>
      ⟨s, [], if n = data.length then .ok () else .error (.io (.shortSend n data.length))⟩
    | none => ⟨s, [], .ok ()⟩

/-- Switches between the modes. -/
def setMode (mode : Mode) : Act Unit :=
  call .setMode [.switched mode] (Action.modify fun s => { s with mode := mode })

/-- Whether a filter rule refuses a program before any call is made. -/
def refuses (rule : FilterRule) (program : Bpf.Program) : Bool :=
  rule != .anyLength && (program.isEmpty || program.length > Bpf.maxLength)

/-- Puts a filter program in force, in place of the one before. -/
def attach (program : Bpf.Program) : Act Unit := fun s =>
  if refuses s.filterRule program then ⟨s, [], .error (.os Errno.invalidArgument)⟩
  else if s.filterRule = .invalidDescriptor then ⟨s, [], .error (.os Errno.badDescriptor)⟩
  else
    call .attach [.attached program] (Action.modify fun s => { s with filter := some program }) s

/-- Takes the filter program out of force; there must be one. -/
def detach : Act Unit := fun s =>
  if s.filterRule = .invalidDescriptor then ⟨s, [], .error (.os Errno.badDescriptor)⟩
  else
    call .detach [.detached]
      (fun s =>
        if s.filter.isSome then ⟨{ s with filter := none }, [], .ok ()⟩
        else ⟨s, [], .error (.os Errno.noEntry)⟩) s

/-! ## Receiving -/

/-- What a receive makes of an arrival. -/
def read (capacity : Option Nat) : Arrival → Except Error Bytes
  | .datagram data =>
    match capacity with
    | some n => if data.length ≤ n then .ok data else .error (.truncated data.length n)
    | none => .ok data
  | .failure errno => .error (.os errno)
  | .cut expected actual => .error (.truncated expected actual)
  | .pause => .error (.os Errno.wouldBlock)

/-- Receives one datagram. An arrival is consumed whether it can be read or not. -/
def receive : Act Bytes := fun s =>
  match s.queue with
  | [] => ⟨{ s with ready := false }, [.received], .error (.os Errno.wouldBlock)⟩
  | arrival :: rest =>
    ⟨{ s with queue := rest, ready := arrival = .pause || s.ready && !rest.isEmpty }, [.received],
      read s.capacity arrival⟩

theorem receive_shorter {s : Socket} {data : Bytes} (h : (receive s).result = .ok data) :
    (receive s).state.queue.length < s.queue.length := by
  unfold receive at h ⊢
  split at h <;> simp_all

/-! ## Arrivals -/

/-- Adds arrivals at the end of the queue; any makes the socket readable. -/
def deliver (items : List Arrival) (s : Socket) : Socket :=
  { s with queue := s.queue ++ items, ready := s.ready || !items.isEmpty }

/-- What becomes of a multicast datagram. -/
inductive Delivery
  /-- The filter program accepted nothing of it. -/
  | dropped
  | queued
deriving DecidableEq, Repr

/-- Passes a multicast datagram through the filter program and queues it when it is accepted. -/
def multicast (data : Bytes) (s : Socket) : Socket × Except Error Delivery :=
  match s.filter with
  | none => (s.deliver [.datagram data], .ok .queued)
  | some program =>
    match Bpf.run program data with
    | .error e => (s, .error e)
    | .ok accepted =>
      if accepted = 0 then (s, .ok .dropped) else (s.deliver [.datagram data], .ok .queued)

end Socket

end SampleTap
