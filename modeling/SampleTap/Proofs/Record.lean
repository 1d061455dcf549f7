import SampleTap.Proofs.AttrTable
import SampleTap.Record

/-!
# Fields of views and records

A field of a view is there, with a value that can be read and that the record keeps, or it is
absent: reading it is refused by its name, and the record keeps nothing (`FieldState`). For the
fields that exist by the presence of their attribute alone this rests on the least lengths of a
table (`AttrTable.isSome_u32?_of_parse`).

`fields_agree_of_parse` says it of every field of the views of a table, of the record of its event
and of the group that it describes.
-/

namespace SampleTap

/-! ## The state of a field -/

/-- How the parts of a view and its record that are about one field go together: what the table
holds of the field's type, whether the field exists, what reading it gives, and what the record
keeps. -/
inductive FieldState {α : Type} (name : String) :
    Option α → Bool → Except AbsentField α → Option α → Prop
  | there {value : α} : FieldState name (some value) true (.ok value) (some value)
  | absent : FieldState name none false (.error ⟨name⟩) none

/-- A field that exists when the table holds something of its type is in one of the two states. -/
theorem FieldState.of_isSome {α : Type} {name : String} {value? : Option α} {exists? : Bool}
    (h : value?.isSome = exists?) :
    FieldState name value? exists? (present name value?) value? := by
  subst h
  cases value? with
  | none => exact .absent
  | some value => exact .there

/-- Whether a record keeps what a sample says. -/
structure SampleView.KeptBy (v : SampleView) (record : SampleRecord) : Prop where
  group : FieldState "group" (v.table.u32? .sampleGroup) v.hasGroup v.group record.group
  rate : FieldState "rate" (v.table.u32? .sampleRate) v.hasRate v.rate record.rate
  iif : FieldState "iif" (v.table.u16? .iifIndex) v.hasIif v.iif record.iif
  oif : FieldState "oif" (v.table.u16? .oifIndex) v.hasOif v.oif record.oif
  origSize :
    FieldState "origsize" (v.table.u32? .origSize) v.hasOrigSize v.origSize record.origSize
  seq : FieldState "seq" (v.table.u32? .groupSeq) v.hasSeq v.seq record.seq
  outTc : FieldState "out_tc" (v.table.u16? .outTc) v.hasOutTc v.outTc record.outTc
  outTcOcc :
    FieldState "out_tc_occ" (v.table.u64? .outTcOcc) v.hasOutTcOcc v.outTcOcc record.outTcOcc
  latency : FieldState "latency" (v.table.u64? .latency) v.hasLatency v.latency record.latency
  timestamp :
    FieldState "timestamp" (v.table.u64? .timestamp) v.hasTimestamp v.timestamp record.timestamp
  proto : FieldState "proto" (v.table.u16? .proto) v.hasProto v.proto record.proto
  userCookie :
    FieldState "user_cookie" (v.table.get? .userCookie) v.hasUserCookie v.userCookie
      record.userCookie
  /-- Bytes that are absent are kept as no bytes. -/
  data : ∃ kept, FieldState "data" (v.table.get? .data) v.hasData v.data kept ∧
    record.data = kept.getD []
  /-- Tunnel metadata can be read, and no record keeps it. -/
  tunnel : ∃ unkept, FieldState "tunnel" (v.table.get? .tunnel) v.hasTunnel v.tunnel unkept
  isProbability : record.isProbability = v.isProbability

/-- Whether a record keeps what a change to a group says. -/
structure ConfigView.KeptBy (v : ConfigView) (record : ConfigRecord) : Prop where
  code : record.code = v.code
  group : FieldState "group" (v.table.u32? .sampleGroup) v.hasGroup v.group record.group
  groupSeq :
    FieldState "group_seq" (v.table.u32? .groupSeq) v.hasGroupSeq v.groupSeq record.groupSeq
  groupRefcount :
    FieldState "group_refcount" (v.table.u32? .groupRefcount) v.hasGroupRefcount v.groupRefcount
      record.groupRefcount

/-- Whether a record is the one of a message with a command and a table. -/
inductive Event.KeptBy (code : UInt8) (t : AttrTable) : EventRecord → Prop
  | sample {record : SampleRecord} : code = 0 → (SampleView.mk t).KeptBy record →
      KeptBy code t (.sample record)
  | config {record : ConfigRecord} : code ≠ 0 → (ConfigView.mk code t).KeptBy record →
      KeptBy code t (.config record)

/-- The attributes without which a table describes no group, in the order that they are read. -/
def GroupDescriptor.mandatory : List AttrId := [.sampleGroup, .groupRefcount, .groupSeq]

/-- What reading a group from the table of a view comes to. -/
inductive GroupDescriptor.ReadFrom (v : ConfigView) : Except Error GroupDescriptor → Prop
  /-- All that is mandatory is there. -/
  | complete {d : GroupDescriptor} : (∀ id ∈ mandatory, v.table.contains id) →
      v.group = .ok d.number → v.groupRefcount = .ok d.refcount → v.groupSeq = .ok d.seq →
      ReadFrom v (.ok d)
  /-- The first attribute that is absent. -/
  | missing {before after : List AttrId} {id : AttrId} : mandatory = before ++ id :: after →
      (∀ id' ∈ before, v.table.contains id') → v.table.contains id = false →
      ReadFrom v (.error (.missingAttribute id))

/-! ## Fields of a table that was read -/

section

variable {data : Bytes} {t : AttrTable}

/-- A record of a sample keeps every field of it. -/
theorem SampleView.keptBy_of_parse (h : AttrTable.parse data = .ok t) :
    (SampleView.mk t).KeptBy (SampleView.mk t).record where
  group := .of_isSome (AttrTable.isSome_u32?_of_parse h (by decide))
  rate := .of_isSome (AttrTable.isSome_u32?_of_parse h (by decide))
  iif := .of_isSome (AttrTable.isSome_u16?_of_parse h (by decide))
  oif := .of_isSome (AttrTable.isSome_u16?_of_parse h (by decide))
  origSize := .of_isSome (AttrTable.isSome_u32?_of_parse h (by decide))
  seq := .of_isSome (AttrTable.isSome_u32?_of_parse h (by decide))
  outTc := .of_isSome rfl
  outTcOcc := .of_isSome rfl
  latency := .of_isSome rfl
  timestamp := .of_isSome rfl
  proto := .of_isSome rfl
  userCookie := .of_isSome rfl
  data := ⟨_, .of_isSome rfl, rfl⟩
  tunnel := ⟨_, .of_isSome rfl⟩
  isProbability := rfl

theorem ConfigView.keptBy_of_parse (h : AttrTable.parse data = .ok t) (code : UInt8) :
    (ConfigView.mk code t).KeptBy (ConfigView.mk code t).record where
  code := rfl
  group := .of_isSome (AttrTable.isSome_u32?_of_parse h (by decide))
  groupSeq := .of_isSome (AttrTable.isSome_u32?_of_parse h (by decide))
  groupRefcount := .of_isSome (AttrTable.isSome_u32?_of_parse h (by decide))

/-- A record of an event keeps every field of it, whichever kind it is. -/
theorem Event.keptBy_of_parse (h : AttrTable.parse data = .ok t) (code : UInt8) :
    Event.KeptBy code t (Event.classify code t).record := by
  unfold Event.classify
  split
  · exact .sample ‹_› (SampleView.keptBy_of_parse h)
  · exact .config ‹_› (ConfigView.keptBy_of_parse h code)

/-- A mandatory word fails only by being absent, since a table checks its length. -/
theorem AttrTable.require_of_parse (h : parse data = .ok t) (id : AttrId)
    (hlength : 4 ≤ id.minLength) :
    (t.contains id = false ∧ t.require id = .error (.missingAttribute id)) ∨
      ∃ w, t.contains id ∧ t.u32? id = some w ∧ t.require id = .ok w := by
  rw [← isSome_u32?_of_parse h hlength, require]
  cases t.u32? id with
  | none => exact .inl ⟨rfl, rfl⟩
  | some w => exact .inr ⟨w, rfl, rfl, rfl⟩

theorem GroupDescriptor.readFrom_of_parse (h : AttrTable.parse data = .ok t) (code : UInt8) :
    ReadFrom (ConfigView.mk code t) (ofTable t) := by
  rw [ofTable]
  rcases AttrTable.require_of_parse h .sampleGroup (by decide) with
    ⟨hnone, hread⟩ | ⟨number, hgroup, hnumber, hread⟩ <;> rw [hread]
  · have hfirst : mandatory = [] ++ .sampleGroup :: [.groupRefcount, .groupSeq] := rfl
    exact .missing hfirst (by simp) hnone
  rcases AttrTable.require_of_parse h .groupRefcount (by decide) with
    ⟨hnone, hread⟩ | ⟨refcount, hrefcount, hcount, hread⟩ <;> rw [hread]
  · have hsecond : mandatory = [.sampleGroup] ++ .groupRefcount :: [.groupSeq] := rfl
    exact .missing hsecond (by simpa using hgroup) hnone
  rcases AttrTable.require_of_parse h .groupSeq (by decide) with
    ⟨hnone, hread⟩ | ⟨seq, hseq, hlast, hread⟩ <;> rw [hread]
  · have hthird : mandatory = [.sampleGroup, .groupRefcount] ++ .groupSeq :: [] := rfl
    exact .missing hthird (by simpa using ⟨hgroup, hrefcount⟩) hnone
  · refine .complete (by simpa [mandatory] using ⟨hgroup, hrefcount, hseq⟩) ?_ ?_ ?_
    · exact congrArg (present "group") hnumber
    · exact congrArg (present "group_refcount") hcount
    · exact congrArg (present "group_seq") hlast

/-! ## Both views, the record and the group -/

/-- Of a table that was read, the views, the record of an event and the group agree. -/
theorem fields_agree_of_parse (h : AttrTable.parse data = .ok t) (code : UInt8) :
    (SampleView.mk t).KeptBy (SampleView.mk t).record ∧
      (ConfigView.mk code t).KeptBy (ConfigView.mk code t).record ∧
      Event.KeptBy code t (Event.classify code t).record ∧
      GroupDescriptor.ReadFrom (ConfigView.mk code t) (GroupDescriptor.ofTable t) :=
  ⟨SampleView.keptBy_of_parse h, ConfigView.keptBy_of_parse h code, Event.keptBy_of_parse h code,
    GroupDescriptor.readFrom_of_parse h code⟩

end

/-- A sample whose group has two bytes too many, whose traffic class has one byte too few, and which
has no reference count: its record keeps the group and no class, and it describes no group. -/
theorem fields_agree_of_parse_short_class :
    let data : Bytes :=
      [10, 0, 3, 0, 7, 0, 0, 0, 9, 9, 0, 0, 8, 0, 4, 0, 5, 0, 0, 0, 5, 0, 10, 0, 1]
    let t := ((AttrTable.empty.insert .sampleGroup [7, 0, 0, 0, 9, 9]).insert .groupSeq
      [5, 0, 0, 0]).insert .outTc [1]
    let record : SampleRecord := ⟨some 7, none, none, none, none, some 5, [], none, none, none,
      none, none, none, false⟩
    AttrTable.parse data = .ok t ∧ t.contains .outTc ∧ (SampleView.mk t).KeptBy record ∧
      Event.KeptBy 0 t (.sample record) ∧
      GroupDescriptor.ReadFrom (ConfigView.mk 0 t) (.error (.missingAttribute .groupRefcount)) := by
  intro data t record
  have hparse : AttrTable.parse data = .ok t := by
    have hsplit : Attribute.split data =
        ([⟨3, [7, 0, 0, 0, 9, 9]⟩, ⟨4, [5, 0, 0, 0]⟩, ⟨10, [1]⟩], none) := by decide +kernel
    rw [AttrTable.parse, hsplit]
    rfl
  obtain ⟨hsample, -, hevent, hgroup⟩ := fields_agree_of_parse hparse 0
  exact ⟨hparse, by decide, hsample, hevent, hgroup⟩

end SampleTap
