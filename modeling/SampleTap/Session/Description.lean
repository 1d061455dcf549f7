import SampleTap.Session.Dispatch
import SampleTap.Text.Quoted

/-!
# Descriptions

Sessions and their parts as text for a person who looks for a fault: the name of a structure, then
its fields between braces.
-/

namespace SampleTap

/-- A structure with named fields. -/
def describeFields (name : String) (fields : List (String × String)) : String :=
  let parts := fields.map fun (key, value) => key ++ ": " ++ value
  name ++ " " ++ braced (" " ++ String.intercalate ", " parts ++ " ")

/-- The description of a family. -/
def Family.describe (f : Family) : String :=
  let groups := f.groups.map fun (name, id) => Quoted.quote name ++ ": " ++ toString id
  describeFields "FamilyInfo" [
    ("id", toString f.id),
    ("version", toString f.version),
    ("hdr_size", toString f.headerSize),
    ("max_attr", toString f.maxAttr),
    ("mcast_groups", braced (String.intercalate ", " groups))]

/-- The description of an instruction. -/
def Bpf.Instruction.describe (i : Bpf.Instruction) : String :=
  describeFields "SockFilter" [
    ("code", toString i.code),
    ("jt", toString i.jumpTrue),
    ("jf", toString i.jumpFalse),
    ("k", toString i.operand)]

/-- The description of a group filter. -/
def GroupFilter.describe (f : GroupFilter) : String :=
  describeFields "GroupFilter" [
    ("group", toString f.group),
    ("program", "[" ++ String.intercalate ", " (f.program.map (·.describe)) ++ "]")]

/-- The description of handlers: which visitors there are. -/
def Handlers.describe {σ β : Type} (h : Handlers σ β) : String :=
  describeFields "Handlers" [
    ("sample", toString h.sample.isSome),
    ("config", toString h.config.isSome)]

/-- The description of a session, whose sockets have the given descriptors. -/
def Session.describe (descriptor : Side → String) (s : Session) : String :=
  describeFields "Session" [
    ("family", s.event.family.describe),
    ("event_fd", descriptor .event),
    ("control_fd", descriptor .control),
    ("filter", match s.filter with
      | some filter => "Some(" ++ filter.describe ++ ")"
      | none => "None"),
    ("capturing", toString s.capture.isSome)]

end SampleTap
