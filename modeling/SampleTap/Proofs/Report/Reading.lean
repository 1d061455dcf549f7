import SampleTap.Proofs.Action
import SampleTap.Proofs.Report
import SampleTap.Proofs.Text.Json
import SampleTap.Proofs.Text.Utf8

/-!
# Reading reports

A reader of the JSON lines that events are printed as. It looks each field up by its key, so their
order does not matter to it, and bytes that are left out are no bytes.

* `event?_eventJson` says that it gives back the event of an object, and `readLine?_lineBytes` that
  it gives back the event of a line.
* `printEvents_unlimited` says what an unlimited writer gets, and `splitOn_lines` where its lines
  end.
* `printed_lines_read_back` joins these for any list of events.
-/

namespace SampleTap
namespace Report

/-! ## Reading fields -/

/-- An integer below a limit. -/
def word? {α : Type} (limit : Nat) (ofNat : Nat → α) : JsonValue → Option α
  | .number n => if n < limit then some (ofNat n) else none
  | _ => none

def u8? : JsonValue → Option UInt8 := word? UInt8.size UInt8.ofNat

def u16? : JsonValue → Option UInt16 := word? UInt16.size UInt16.ofNat

def u32? : JsonValue → Option UInt32 := word? UInt32.size UInt32.ofNat

def u64? : JsonValue → Option UInt64 := word? UInt64.size UInt64.ofNat

/-- What may be absent. -/
def nullable? {α : Type} (read? : JsonValue → Option α) : JsonValue → Option (Option α)
  | .null => some none
  | v => (read? v).map some

def bytes? : JsonValue → Option Bytes
  | .array items => items.mapM u8?
  | _ => none

def flag? : JsonValue → Option Bool
  | .bool value => some value
  | _ => none

/-- The field of a key. -/
def fieldOf? {α : Type} (fields : List (String × JsonValue)) (key : String)
    (read? : JsonValue → Option α) : Option α :=
  (fields.lookup key).bind read?

/-- The bytes of a key, or no bytes when there is no such field. -/
def bytesOrNone? (fields : List (String × JsonValue)) (key : String) : Option Bytes :=
  match fields.lookup key with
  | some v => bytes? v
  | none => some []

/-! ## Reading events -/

def sample? (fields : List (String × JsonValue)) : Option SampleRecord := do
  let group ← fieldOf? fields "group" (nullable? u32?)
  let rate ← fieldOf? fields "rate" (nullable? u32?)
  let iif ← fieldOf? fields "iif" (nullable? u16?)
  let oif ← fieldOf? fields "oif" (nullable? u16?)
  let origSize ← fieldOf? fields "origsize" (nullable? u32?)
  let seq ← fieldOf? fields "seq" (nullable? u32?)
  let data ← bytesOrNone? fields "data"
  let outTc ← fieldOf? fields "out_tc" (nullable? u16?)
  let outTcOcc ← fieldOf? fields "out_tc_occ" (nullable? u64?)
  let latency ← fieldOf? fields "latency" (nullable? u64?)
  let timestamp ← fieldOf? fields "timestamp" (nullable? u64?)
  let proto ← fieldOf? fields "proto" (nullable? u16?)
  let userCookie ← fieldOf? fields "user_cookie" (nullable? bytes?)
  let isProbability ← fieldOf? fields "sample_probability" flag?
  return { group, rate, iif, oif, origSize, seq, data, outTc, outTcOcc, latency, timestamp, proto,
           userCookie, isProbability }

def config? (fields : List (String × JsonValue)) : Option ConfigRecord := do
  let code ← fieldOf? fields "cmd" u8?
  let group ← fieldOf? fields "group" (nullable? u32?)
  let groupSeq ← fieldOf? fields "group_seq" (nullable? u32?)
  let groupRefcount ← fieldOf? fields "group_refcount" (nullable? u32?)
  return { code, group, groupSeq, groupRefcount }

/-- The event of an object whose field `event` tells its kind. -/
def event? : JsonValue → Option EventRecord
  | .object fields =>
    match fields.lookup "event" with
    | some (.name kind) =>
      if kind = "sample" then (sample? fields).map .sample
      else if kind = "config" then (config? fields).map .config
      else none
    | _ => none
  | _ => none

/-- The event of a line. -/
def readLine? (line : Bytes) : Option EventRecord :=
  ((Utf8.decode line).toOption.bind JsonValue.read?).bind event?

/-! ## Fields that were written -/

theorem u8?_number (w : UInt8) : u8? (.number w.toNat) = some w := by
  rw [u8?, word?, if_pos w.toNat_lt, UInt8.ofNat_toNat]

theorem u16?_number (w : UInt16) : u16? (.number w.toNat) = some w := by
  rw [u16?, word?, if_pos w.toNat_lt, UInt16.ofNat_toNat]

theorem u32?_number (w : UInt32) : u32? (.number w.toNat) = some w := by
  rw [u32?, word?, if_pos w.toNat_lt, UInt32.ofNat_toNat]

theorem u64?_number (w : UInt64) : u64? (.number w.toNat) = some w := by
  rw [u64?, word?, if_pos w.toNat_lt, UInt64.ofNat_toNat]

/-- Bytes are read back from the array of their numbers. -/
theorem bytes?_byteArray (data : Bytes) : bytes? (byteArray data) = some data := by
  have hread : u8? ∘ (fun b : UInt8 => .number b.toNat) = fun b => pure (id b) :=
    funext u8?_number
  rw [byteArray, bytes?, List.mapM_map, hread, List.mapM_pure, List.map_id]
  rfl

/-- The keys of the fields are different. -/
def Keyed (fields : List (String × JsonValue)) : Prop := (fields.map Prod.fst).Nodup

section

variable {fields : List (String × JsonValue)} {key : String} {v : JsonValue}

/-- Where no key is used twice, a field is found under its key wherever it stands. -/
theorem Keyed.lookup_of_mem (h : Keyed fields) (hmem : (key, v) ∈ fields) :
    fields.lookup key = some v := by
  induction fields with
  | nil => exact absurd hmem List.not_mem_nil
  | cons field rest ih =>
    obtain ⟨hfirst, hrest⟩ := List.nodup_cons.mp h
    rcases List.mem_cons.mp hmem with rfl | hmem
    · exact List.lookup_cons_self
    · have hother : (key == field.1) = false := by
        rw [beq_eq_false_iff_ne]
        rintro rfl
        exact hfirst (List.mem_map.mpr ⟨_, hmem, rfl⟩)
      rw [List.lookup_cons, hother]
      exact ih hrest hmem

/-- A field is read from the value under its key. -/
theorem Keyed.fieldOf?_of_mem {α : Type} {read? : JsonValue → Option α} {a : α} (h : Keyed fields)
    (hmem : (key, v) ∈ fields) (hread : read? v = some a) : fieldOf? fields key read? = some a := by
  rw [fieldOf?, h.lookup_of_mem hmem, Option.bind_some, hread]

/-- A field that may be absent is read back, be it there or not. -/
theorem Keyed.fieldOf?_optional {α : Type} {read? : JsonValue → Option α} {toNat : α → Nat}
    {value : Option α} (h : Keyed fields) (hread : ∀ a, read? (.number (toNat a)) = some a)
    (hmem : (key, optional (value.map toNat)) ∈ fields) :
    fieldOf? fields key (nullable? read?) = some value := by
  refine h.fieldOf?_of_mem hmem ?_
  cases value with
  | none => rfl
  | some a => exact congrArg (Option.map some) (hread a)

end

/-! ## Events that were written -/

/-- The fields of an event with the one in front that tells its kind. -/
def tagged (kind : String) (fields : List (String × JsonValue)) : List (String × JsonValue) :=
  ("event", .name kind) :: fields

/-- No key of a sample is used twice, with or without its data. -/
theorem keyed_sampleFields (kind : String) (r : SampleRecord) :
    Keyed (tagged kind (sampleFields r)) := by
  have hwith : ["event", "group", "rate", "iif", "oif", "origsize", "seq", "data", "out_tc",
      "out_tc_occ", "latency", "timestamp", "proto", "user_cookie",
      "sample_probability"].Nodup := by decide
  have hwithout : ["event", "group", "rate", "iif", "oif", "origsize", "seq", "out_tc",
      "out_tc_occ", "latency", "timestamp", "proto", "user_cookie",
      "sample_probability"].Nodup := hwith.sublist (by decide)
  unfold sampleFields
  split
  · exact hwithout
  · exact hwith

/-- The data of a sample are read back. They are left out if there are none. -/
theorem bytesOrNone?_sampleFields (kind : String) (r : SampleRecord) :
    bytesOrNone? (tagged kind (sampleFields r)) "data" = some r.data := by
  cases hempty : r.data.isEmpty with
  | true =>
    have hnone : (tagged kind (sampleFields r)).lookup "data" = none := by
      rw [sampleFields, hempty]
      rfl
    rw [bytesOrNone?, hnone, List.isEmpty_iff.mp hempty]
  | false =>
    have hmem : ("data", byteArray r.data) ∈ tagged kind (sampleFields r) := by
      simp [tagged, sampleFields, hempty]
    rw [bytesOrNone?, (keyed_sampleFields kind r).lookup_of_mem hmem]
    exact bytes?_byteArray r.data

/-- A sample is read back from its fields. -/
theorem sample?_sampleFields (kind : String) (r : SampleRecord) :
    sample? (tagged kind (sampleFields r)) = some r := by
  let fields := tagged kind (sampleFields r)
  have hkeys : Keyed fields := keyed_sampleFields kind r
  have hdata : bytesOrNone? fields "data" = some r.data := bytesOrNone?_sampleFields kind r
  have hgroup : fieldOf? fields "group" (nullable? u32?) = some r.group :=
    hkeys.fieldOf?_optional u32?_number (by simp [fields, tagged, sampleFields])
  have hrate : fieldOf? fields "rate" (nullable? u32?) = some r.rate :=
    hkeys.fieldOf?_optional u32?_number (by simp [fields, tagged, sampleFields])
  have hiif : fieldOf? fields "iif" (nullable? u16?) = some r.iif :=
    hkeys.fieldOf?_optional u16?_number (by simp [fields, tagged, sampleFields])
  have hoif : fieldOf? fields "oif" (nullable? u16?) = some r.oif :=
    hkeys.fieldOf?_optional u16?_number (by simp [fields, tagged, sampleFields])
  have horigSize : fieldOf? fields "origsize" (nullable? u32?) = some r.origSize :=
    hkeys.fieldOf?_optional u32?_number (by simp [fields, tagged, sampleFields])
  have hseq : fieldOf? fields "seq" (nullable? u32?) = some r.seq :=
    hkeys.fieldOf?_optional u32?_number (by simp [fields, tagged, sampleFields])
  have houtTc : fieldOf? fields "out_tc" (nullable? u16?) = some r.outTc :=
    hkeys.fieldOf?_optional u16?_number (by simp [fields, tagged, sampleFields])
  have houtTcOcc : fieldOf? fields "out_tc_occ" (nullable? u64?) = some r.outTcOcc :=
    hkeys.fieldOf?_optional u64?_number (by simp [fields, tagged, sampleFields])
  have hlatency : fieldOf? fields "latency" (nullable? u64?) = some r.latency :=
    hkeys.fieldOf?_optional u64?_number (by simp [fields, tagged, sampleFields])
  have htimestamp : fieldOf? fields "timestamp" (nullable? u64?) = some r.timestamp :=
    hkeys.fieldOf?_optional u64?_number (by simp [fields, tagged, sampleFields])
  have hproto : fieldOf? fields "proto" (nullable? u16?) = some r.proto :=
    hkeys.fieldOf?_optional u16?_number (by simp [fields, tagged, sampleFields])
  have hcookie : fieldOf? fields "user_cookie" (nullable? bytes?) = some r.userCookie := by
    cases hcookie : r.userCookie with
    | none =>
      have hmem : ("user_cookie", .null) ∈ fields := by
        simp [fields, tagged, sampleFields, hcookie]
      exact hkeys.fieldOf?_of_mem hmem rfl
    | some cookie =>
      have hmem : ("user_cookie", byteArray cookie) ∈ fields := by
        simp [fields, tagged, sampleFields, hcookie]
      exact hkeys.fieldOf?_of_mem hmem (congrArg (Option.map some) (bytes?_byteArray cookie))
  have hflag : fieldOf? fields "sample_probability" flag? = some r.isProbability :=
    hkeys.fieldOf?_of_mem (v := .bool r.isProbability) (by simp [fields, tagged, sampleFields]) rfl
  show sample? fields = some r
  simp only [sample?, hgroup, hrate, hiif, hoif, horigSize, hseq, hdata, houtTc, houtTcOcc,
    hlatency, htimestamp, hproto, hcookie, hflag, Option.bind_eq_bind, Option.bind_some]
  rfl

theorem config?_configFields (kind : String) (r : ConfigRecord) :
    config? (tagged kind (configFields r)) = some r := by
  let fields := tagged kind (configFields r)
  have hkeys : Keyed fields := by
    have hdifferent : ["event", "cmd", "group", "group_seq", "group_refcount"].Nodup := by decide
    exact hdifferent
  have hcode : fieldOf? fields "cmd" u8? = some r.code :=
    hkeys.fieldOf?_of_mem (by simp [fields, tagged, configFields]) (u8?_number r.code)
  have hgroup : fieldOf? fields "group" (nullable? u32?) = some r.group :=
    hkeys.fieldOf?_optional u32?_number (by simp [fields, tagged, configFields])
  have hgroupSeq : fieldOf? fields "group_seq" (nullable? u32?) = some r.groupSeq :=
    hkeys.fieldOf?_optional u32?_number (by simp [fields, tagged, configFields])
  have hgroupRefcount : fieldOf? fields "group_refcount" (nullable? u32?) = some r.groupRefcount :=
    hkeys.fieldOf?_optional u32?_number (by simp [fields, tagged, configFields])
  show config? fields = some r
  simp only [config?, hcode, hgroup, hgroupSeq, hgroupRefcount, Option.bind_eq_bind,
    Option.bind_some]
  rfl

/-- The event of an object is the one that it was made from. -/
theorem event?_eventJson (r : EventRecord) : event? (eventJson r) = some r := by
  have hother : "config" ≠ "sample" := by decide
  match r with
  | .sample r =>
    show event? (.object (tagged "sample" (sampleFields r))) = _
    rw [event?, tagged, List.lookup_cons_self]
    simp only [if_true]
    exact congrArg (Option.map EventRecord.sample) (sample?_sampleFields "sample" r)
  | .config r =>
    show event? (.object (tagged "config" (configFields r))) = _
    rw [event?, tagged, List.lookup_cons_self]
    simp only [if_neg hother, if_true]
    exact congrArg (Option.map EventRecord.config) (config?_configFields "config" r)

/-! ## Lines that were written -/

/-- The line of an event without its end, in bytes. -/
def lineBytes (r : EventRecord) : Bytes := Bytes.ofText (eventJson r).compact

/-- An event is read back from the bytes of its line. -/
theorem readLine?_lineBytes (r : EventRecord) : readLine? (lineBytes r) = some r := by
  rw [readLine?, lineBytes, Utf8.decode_ofText, Except.toOption, Option.bind_some,
    JsonValue.read?_compact (isPlain_eventJson r), Option.bind_some, event?_eventJson]

/-- The order of the fields does not matter to the reader. -/
example : readLine? (Bytes.ofText (braced
    "\"group\":7,\"group_refcount\":null,\"cmd\":2,\"event\":\"config\",\"group_seq\":0")) =
      some (.config ⟨2, some 7, some 0, none⟩) := by
  decide +kernel

/-- No byte of a line is a line break, since no character of it is one. -/
theorem lineBreak_not_mem_lineBytes (r : EventRecord) : 10 ∉ lineBytes r := by
  rw [lineBytes, Bytes.mem_ofText_iff (by decide)]
  rintro ⟨c, hc, hbreak⟩
  have hlineBreak : c = '\n' := Char.toNat_inj.mp hbreak
  exact unbroken_eventJson r (hlineBreak ▸ hc)

/-! ## Printing -/

/-- Prints the lines of events in order. -/
def printEvents (format : Format) (names : InterfaceNames) (records : List EventRecord) :
    Writer.Act Unit :=
  records.forM (printEvent format names)

/-- A writer that takes any number of bytes and holds none back. -/
def unlimited : Writer := { room := none, buffered := false, held := [] }

/-- A writer without a limit gets the line and its end at once. -/
theorem printEvent_unlimited (names : InterfaceNames) (r : EventRecord) :
    printEvent .json names r unlimited = ⟨unlimited, [lineBytes r ++ [10]], .ok ()⟩ := by
  have hbreak : Bytes.ofText "\n" = [10] := by decide +kernel
  have hline : Bytes.ofText (eventLine .json names r) = lineBytes r ++ [10] := by
    rw [eventLine, Bytes.ofText_append, hbreak, lineBytes]
  rw [printEvent, hline]
  rfl

/-- A writer without a limit gets one line for each event, in order. -/
theorem printEvents_unlimited (names : InterfaceNames) (records : List EventRecord) :
    printEvents .json names records unlimited =
      ⟨unlimited, records.map fun r => lineBytes r ++ [10], .ok ()⟩ := by
  induction records with
  | nil => rfl
  | cons r rest ih =>
    show (printEvent .json names r >>= fun _ => printEvents .json names rest) unlimited = _
    rw [Action.bind_of_ok (printEvent_unlimited names r), ih]
    rfl

/-- What is printed splits at its line breaks into a line for each event, and nothing behind the
last one. -/
theorem splitOn_lines (records : List EventRecord) :
    (records.map fun r => lineBytes r ++ [10]).flatten.splitOn 10 =
      records.map lineBytes ++ [[]] := by
  induction records with
  | nil => rfl
  | cons r rest ih =>
    rw [List.map_cons, List.flatten_cons, List.append_assoc, List.singleton_append,
      List.splitOn_append_cons_self_of_not_mem (lineBreak_not_mem_lineBytes r), ih]
    rfl

/-- Events that are printed as JSON are read back. What an unlimited writer gets splits at its line
breaks into one line for each event, in order, and nothing behind the last one. From each line its
event is read. So two lists of events that are printed as the same bytes are the same, whatever
names the interfaces have. -/
theorem printed_lines_read_back (names : InterfaceNames) (records : List EventRecord) :
    let printed := printEvents .json names records unlimited
    printed.result = .ok () ∧
      (∃ lines : List Bytes, printed.trace.flatten.splitOn 10 = lines ++ [[]] ∧
        lines.map readLine? = records.map some) ∧
      ∀ (names' : InterfaceNames) (records' : List EventRecord),
        (printEvents .json names' records' unlimited).trace.flatten = printed.trace.flatten →
          records' = records := by
  have hread (events : List EventRecord) :
      (events.map lineBytes).map readLine? = events.map some := by
    rw [List.map_map]
    exact List.map_congr_left fun r _ => readLine?_lineBytes r
  intro printed
  refine ⟨?_, ⟨records.map lineBytes, ?_, hread records⟩, ?_⟩
  · rw [show printed = _ from printEvents_unlimited names records]
  · rw [show printed = _ from printEvents_unlimited names records]
    exact splitOn_lines records
  · intro names' records' hsame
    rw [show printed = _ from printEvents_unlimited names records, printEvents_unlimited] at hsame
    have hlines := congrArg (·.splitOn 10) hsame
    simp only [splitOn_lines, List.append_cancel_right_eq] at hlines
    have hevents := congrArg (List.map readLine?) hlines
    rw [hread, hread] at hevents
    exact (List.map_inj_right fun _ _ => Option.some.inj).mp hevents

end Report
end SampleTap
