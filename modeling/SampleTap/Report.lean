import SampleTap.Record
import SampleTap.Text.Json
import SampleTap.Writer

/-!
# Reports

Events and groups as lines for a reader: plain text, or JSON. A JSON line tells every field of an
event in a fixed order, and `null` for an absent one; only empty sampled bytes are left out.
-/

namespace SampleTap

namespace Report

/-- How reports are written. -/
inductive Format
  | text
  | json
deriving DecidableEq, Repr

/-! ## JSON -/

/-- An integer that may be absent. -/
def optional : Option Nat → JsonValue
  | some n => .number n
  | none => .null

/-- Bytes as a list of integers. -/
def byteArray (data : Bytes) : JsonValue := .array (data.map fun b => .number b.toNat)

/-- The fields of a sample. -/
def sampleFields (r : SampleRecord) : List (String × JsonValue) :=
  [("group", optional (r.group.map (·.toNat))),
    ("rate", optional (r.rate.map (·.toNat))),
    ("iif", optional (r.iif.map (·.toNat))),
    ("oif", optional (r.oif.map (·.toNat))),
    ("origsize", optional (r.origSize.map (·.toNat))),
    ("seq", optional (r.seq.map (·.toNat)))] ++
  (if r.data.isEmpty then [] else [("data", byteArray r.data)]) ++
  [("out_tc", optional (r.outTc.map (·.toNat))),
    ("out_tc_occ", optional (r.outTcOcc.map (·.toNat))),
    ("latency", optional (r.latency.map (·.toNat))),
    ("timestamp", optional (r.timestamp.map (·.toNat))),
    ("proto", optional (r.proto.map (·.toNat))),
    ("user_cookie", match r.userCookie with
      | some cookie => byteArray cookie
      | none => .null),
    ("sample_probability", .bool r.isProbability)]

/-- The fields of a change to a group. -/
def configFields (r : ConfigRecord) : List (String × JsonValue) :=
  [("cmd", .number r.code.toNat),
    ("group", optional (r.group.map (·.toNat))),
    ("group_seq", optional (r.groupSeq.map (·.toNat))),
    ("group_refcount", optional (r.groupRefcount.map (·.toNat)))]

/-- An event as an object whose first field tells its kind. -/
def eventJson : EventRecord → JsonValue
  | .sample r => .object (("event", .name "sample") :: sampleFields r)
  | .config r => .object (("event", .name "config") :: configFields r)

/-- A group as an object. -/
def groupJson (g : GroupDescriptor) : JsonValue :=
  .object [("num", .number g.number.toNat), ("refcount", .number g.refcount.toNat),
    ("seq", .number g.seq.toNat)]

/-! ## Plain text -/

/-- Names of interfaces. -/
abbrev InterfaceNames := UInt16 → Option Bytes

/-- The most bytes of an interface name. -/
def maxNameLength : Nat := 15

/-- The name of an interface, or its index when it has none. -/
def interfaceText (names : InterfaceNames) (index : UInt16) : String :=
  match names index with
  | some name => Utf8.lossy ((name.take maxNameLength).takeWhile (· != 0))
  | none => toString index

/-- `label` followed by a value, or nothing when there is none. -/
def labelled (label : String) : Option String → String
  | some value => label ++ value
  | none => ""

/-- The line of a sample. -/
def sampleText (names : InterfaceNames) (r : SampleRecord) : String :=
  "sample" ++ labelled " group " (r.group.map toString) ++
    labelled (if r.isProbability then " probability " else " rate ") (r.rate.map toString) ++
    labelled " in " (r.iif.map (interfaceText names)) ++
    labelled " out " (r.oif.map (interfaceText names)) ++
    labelled " tc " (r.outTc.map toString) ++
    labelled " occ " (r.outTcOcc.map toString) ++
    labelled " latency " (r.latency.map fun n => toString n ++ "ns") ++
    labelled " seq " (r.seq.map toString) ++
    " len " ++ toString r.data.length ++
    labelled "/" (r.origSize.map toString) ++
    labelled " cookie " (r.userCookie.map Bytes.hex)

/-- What happened to a group. -/
def actionText (r : ConfigRecord) : String :=
  match Command.ofCode? r.code with
  | some .newGroup => "new"
  | some .deleteGroup => "del"
  | _ => "cmd " ++ toString r.code

/-- The line of a change to a group. -/
def configText (r : ConfigRecord) : String :=
  actionText r ++ " group " ++ ((r.group.map toString).getD "?") ++
    labelled " refcount " (r.groupRefcount.map toString)

/-- The line of a group. -/
def groupText (g : GroupDescriptor) : String :=
  "group " ++ toString g.number ++ " refcount " ++ toString g.refcount ++ " seq " ++ toString g.seq

/-! ## Lines -/

/-- The line of an event, with its end. -/
def eventLine (format : Format) (names : InterfaceNames) (r : EventRecord) : String :=
  match format, r with
  | .json, r => (eventJson r).compact ++ "\n"
  | .text, .sample r => sampleText names r ++ "\n"
  | .text, .config r => configText r ++ "\n"

/-- Prints the line of an event. -/
def printEvent (format : Format) (names : InterfaceNames) (r : EventRecord) : Writer.Act Unit :=
  Writer.put (Bytes.ofText (eventLine format names r))

/-- The list of groups: one text line each, or one JSON value for all. -/
def groupList (format : Format) (groups : List GroupDescriptor) : String :=
  match format with
  | .json => (JsonValue.array (groups.map groupJson)).pretty ++ "\n"
  | .text => String.join (groups.map fun g => groupText g ++ "\n")

end Report

end SampleTap
