import SampleTap.Family
import SampleTap.Message.Builder
import SampleTap.Socket

/-!
# Connections

A socket that speaks for one family: it joins the family's multicast groups by name and prepares
requests to the family.
-/

namespace SampleTap

/-- A socket bound to a family. -/
structure Connection where
  socket : Socket
  family : Family
  /-- The protocol version put into requests. -/
  version : UInt8

namespace Connection

/-- The actions on connections. -/
abbrev Act (α : Type) : Type := Action Call Connection α

/-- An action on the connection's socket. -/
def onSocket {α : Type} (act : Socket.Act α) : Act α :=
  Action.on socket (fun c s => { c with socket := s }) id act

/-- Joins a multicast group of the family. -/
def joinGroup (name : String) : Act Unit := fun c =>
  match c.family.group? name with
  | some group => onSocket (Socket.joinGroup group) c
  | none => ⟨c, [], .error (.groupNotFound name)⟩

/-- A request with the next sequence number and a command header. -/
def prepare (type : UInt16) (command version : UInt8) (flags : UInt16) : Act MessageBuilder := do
  let seq ← onSocket Socket.takeSeq
  let c ← Action.get
  let start : MessageBuilder := { type, flags, seq, sender := c.socket.address }
  return start.appendCommand { command, version }

/-- A request to the connection's family. -/
def prepareFamily (command : UInt8) (flags : UInt16) : Act MessageBuilder := fun c =>
  prepare c.family.id command c.version flags c

end Connection

end SampleTap
