import SampleTap.Capture.Pcap
import SampleTap.Proofs.Bytes

/-!
# Reading capture files

A reader of capture files of either byte order, with times in microseconds or nanoseconds: the first
four bytes of a file tell which. It takes nothing on trust: the version, the fraction of a second,
the two lengths of a frame and the end of the file are checked.

What a record was written as reads back with its time cut to microseconds, whatever follows it
(`readRecord?_encode_append`), and so does a file of records that fit its snapshot length
(`read?_contents`).
-/

namespace SampleTap

/-- Whether the nanoseconds of a time do not make a second. -/
def Timestamp.Normal (t : Timestamp) : Prop := t.nanoseconds < 1000000000

instance (t : Timestamp) : Decidable t.Normal := inferInstanceAs (Decidable (_ < _))

namespace Pcap

/-! ## The reader -/

/-- The first `n` bytes and those behind them. -/
def cut? (n : Nat) (data : Bytes) : Option (Bytes × Bytes) :=
  if n ≤ data.length then some (data.take n, data.drop n) else none

/-- How a file writes its numbers. -/
structure Layout where
  /-- Whether the lowest byte comes first. -/
  little : Bool
  /-- The nanoseconds in a unit of a time's fraction. -/
  tick : Nat
deriving DecidableEq, Repr

/-- The number in a field of a header. -/
def Layout.field (layout : Layout) (header : Bytes) (offset width : Nat) : Nat :=
  let bytes := (header.drop offset).take width
  if layout.little then Bytes.littleNat bytes else Bytes.bigNat bytes

/-- The layout that the first four bytes of a file tell. -/
def layout? (magic : Bytes) : Option Layout :=
  if Bytes.littleNat magic = 0xa1b2c3d4 then some ⟨true, 1000⟩
  else if Bytes.littleNat magic = 0xa1b23c4d then some ⟨true, 1⟩
  else if Bytes.bigNat magic = 0xa1b2c3d4 then some ⟨false, 1000⟩
  else if Bytes.bigNat magic = 0xa1b23c4d then some ⟨false, 1⟩
  else none

/-- What the header of a file says. -/
structure Heading where
  layout : Layout
  snaplen : Nat
  linkType : Nat
deriving DecidableEq, Repr

/-- What the twenty-four bytes of a file's header say, for version 2.4. The time zone and the
accuracy are not used. -/
def Heading.parse? (header : Bytes) : Option Heading :=
  match layout? (header.take 4) with
  | none => none
  | some layout =>
    if layout.field header 4 2 = 2 ∧ layout.field header 6 2 = 4 then
      some ⟨layout, layout.field header 16 4, layout.field header 20 4⟩
    else none

/-- The frame with a record's header of sixteen bytes, and what is behind it. -/
def readFrame? (heading : Heading) (header data : Bytes) : Option (Record × Bytes) :=
  let field (offset : Nat) : Nat := heading.layout.field header offset 4
  let time : Timestamp := ⟨field 0, field 4 * heading.layout.tick⟩
  if time.nanoseconds < 1000000000 ∧ field 8 ≤ heading.snaplen ∧ field 8 ≤ field 12 then
    (cut? (field 8) data).map fun (frame, rest) => (⟨time, frame, UInt32.ofNat (field 12)⟩, rest)
  else none

/-- A record, and what is behind it. -/
def readRecord? (heading : Heading) (data : Bytes) : Option (Record × Bytes) :=
  (cut? 16 data).bind fun (header, rest) => readFrame? heading header rest

/-- Bytes are cut off the front if there are enough. -/
theorem cut?_eq_some_iff {n : Nat} {data front rest : Bytes} :
    cut? n data = some (front, rest) ↔ front.length = n ∧ data = front ++ rest := by
  unfold cut?
  constructor
  · intro h
    split at h
    · rename_i hle
      simp only [Option.some.injEq, Prod.mk.injEq] at h
      rw [← h.1, ← h.2, List.take_append_drop, List.length_take]
      exact ⟨Nat.min_eq_left hle, rfl⟩
    · simp at h
  · rintro ⟨rfl, rfl⟩
    have hle : front.length ≤ (front ++ rest).length := by
      rw [List.length_append]
      omega
    rw [if_pos hle, List.take_left, List.drop_left]

theorem cut?_append {front : Bytes} {n : Nat} (h : front.length = n) (rest : Bytes) :
    cut? n (front ++ rest) = some (front, rest) :=
  cut?_eq_some_iff.mpr ⟨h, rfl⟩

/-- Reading a record uses bytes up. -/
theorem readRecord?_shorter {heading : Heading} {data rest : Bytes} {r : Record}
    (h : readRecord? heading data = some (r, rest)) : rest.length < data.length := by
  obtain ⟨⟨header, behind⟩, hheader, hframe⟩ := Option.bind_eq_some_iff.mp h
  obtain ⟨hlength, rfl⟩ := cut?_eq_some_iff.mp hheader
  unfold readFrame? at hframe
  simp only at hframe
  split at hframe
  · obtain ⟨⟨frame, behind'⟩, hcut, heq⟩ := Option.map_eq_some_iff.mp hframe
    obtain ⟨-, rfl⟩ := cut?_eq_some_iff.mp hcut
    have hrest : behind' = rest := congrArg Prod.snd heq
    rw [← hrest, List.length_append, List.length_append]
    omega
  · simp at hframe

/-- All records up to the end of a file. -/
def readRecords? (heading : Heading) (data : Bytes) : Option (List Record) :=
  if data.isEmpty then some []
  else
    match h : readRecord? heading data with
    | none => none
    | some (r, rest) =>
      have : rest.length < data.length := readRecord?_shorter h
      (readRecords? heading rest).map (r :: ·)
termination_by data.length

/-- A whole file. -/
def read? (data : Bytes) : Option (Heading × List Record) :=
  (cut? 24 data).bind fun (header, rest) =>
    (Heading.parse? header).bind fun heading =>
      (readRecords? heading rest).map fun records => (heading, records)

/-! ## What was written -/

/-- A field that was written with the lowest byte first reads back. -/
theorem Layout.field_littleEndian {layout : Layout} (hlittle : layout.little = true)
    {before : Bytes} {offset width n : Nat} (hoffset : before.length = offset)
    (hn : n < Bytes.limit width) (after : Bytes) :
    layout.field (before ++ (Bytes.littleEndian width n ++ after)) offset width = n := by
  have hbytes : ((before ++ (Bytes.littleEndian width n ++ after)).drop offset).take width =
      Bytes.littleEndian width n := by
    rw [← hoffset, List.drop_left, List.take_left' (Bytes.length_littleEndian width n)]
  rw [field, hbytes, if_pos hlittle, Bytes.littleNat_littleEndian, Nat.mod_eq_of_lt hn]

/-- Words that were written one after the other are the fields at multiples of four. -/
theorem Layout.field_words {layout : Layout} (hlittle : layout.little = true) {words : List Nat}
    (hwords : ∀ n ∈ words, n < Bytes.limit 4) {i : Nat} (hi : i < words.length) :
    layout.field (words.flatMap (Bytes.littleEndian 4)) (4 * i) 4 = words[i] := by
  induction words generalizing i with
  | nil => simp at hi
  | cons n rest ih =>
    rw [List.flatMap_cons]
    cases i with
    | zero =>
      have hfront : ([] : Bytes).length = 4 * 0 := rfl
      exact Layout.field_littleEndian hlittle hfront (hwords n List.mem_cons_self) _
    | succ i =>
      have hrest : i < rest.length := Nat.lt_of_succ_lt_succ hi
      have hdrop (data : Bytes) : (Bytes.littleEndian 4 n ++ data).drop (4 * (i + 1)) =
          data.drop (4 * i) := by
        have hword : (Bytes.littleEndian 4 n).length = 4 := Bytes.length_littleEndian 4 n
        have hleft : 4 * (i + 1) - 4 = 4 * i := by omega
        rw [List.drop_append, List.drop_eq_nil_of_le (by omega), hword, hleft, List.nil_append]
      have hih := ih (fun n' hn' => hwords n' (List.mem_cons_of_mem n hn')) hrest
      rw [field, hdrop]
      exact hih

/-- The header of a file of times in microseconds. -/
def heading (snaplen : UInt32) : Heading := ⟨⟨true, 1000⟩, snaplen.toNat, linkType⟩

theorem length_fileHeader (snaplen : UInt32) : (fileHeader snaplen).length = 24 := by
  simp [fileHeader]

/-- The header of a file is read back. -/
theorem parse?_fileHeader (snaplen : UInt32) :
    Heading.parse? (fileHeader snaplen) = some (heading snaplen) := by
  have hmagic : layout? ((fileHeader snaplen).take 4) = some ⟨true, 1000⟩ := rfl
  have hmajor : Layout.field ⟨true, 1000⟩ (fileHeader snaplen) 4 2 = 2 := rfl
  have hminor : Layout.field ⟨true, 1000⟩ (fileHeader snaplen) 6 2 = 4 := rfl
  have hsnaplen : Layout.field ⟨true, 1000⟩ (fileHeader snaplen) 16 4 = snaplen.toNat := by
    rw [fileHeader, List.append_assoc _ (Bytes.ofWord32 snaplen)]
    exact Layout.field_littleEndian rfl (by simp) snaplen.toNat_lt _
  have hlink : Layout.field ⟨true, 1000⟩ (fileHeader snaplen) 20 4 = linkType := by
    rw [fileHeader, ← List.append_nil (Bytes.littleEndian 4 linkType)]
    exact Layout.field_littleEndian rfl (by simp) (by decide) _
  rw [Heading.parse?, hmagic]
  dsimp only
  rw [if_pos ⟨hmajor, hminor⟩, hsnaplen, hlink, heading]

/-- A record as a file keeps it: the time is cut to microseconds. -/
def Record.cutTime (r : Record) : Record :=
  { r with time.nanoseconds := r.time.nanoseconds / 1000 * 1000 }

/-- Whether a file of a given snapshot length can hold the record: its seconds take thirty-two bits,
and its frame is no longer than the file and the record say. -/
def Record.Fits (snaplen : UInt32) (r : Record) : Prop :=
  r.time.seconds < 0x100000000 ∧ r.frame.length ≤ snaplen.toNat ∧
    r.frame.length ≤ r.wholeLength.toNat

instance (snaplen : UInt32) (r : Record) : Decidable (r.Fits snaplen) :=
  inferInstanceAs (Decidable (_ ∧ _ ∧ _))

/-- A record that fits reads back, whatever follows it. -/
theorem readRecord?_encode_append {snaplen : UInt32} {r : Record}
    (hfits : r.Fits snaplen) (htime : r.time.Normal) (rest : Bytes) :
    readRecord? (heading snaplen) (r.encode ++ rest) = some (r.cutTime, rest) := by
  obtain ⟨hseconds, hsnaplen, hwhole⟩ := hfits
  unfold Timestamp.Normal at htime
  have hlength : r.frame.length < Bytes.limit 4 :=
    Nat.lt_of_le_of_lt hwhole r.wholeLength.toNat_lt
  have hmicros : r.time.nanoseconds / 1000 < Bytes.limit 4 := by
    show _ < 4294967296
    omega
  let words := [r.time.seconds, r.time.nanoseconds / 1000, r.frame.length, r.wholeLength.toNat]
  have hwords : ∀ n ∈ words, n < Bytes.limit 4 := by
    simp only [words, List.forall_mem_cons]
    exact ⟨hseconds, hmicros, hlength, r.wholeLength.toNat_lt, by simp⟩
  have hheader : (words.flatMap (Bytes.littleEndian 4)).length = 16 := by simp [words]
  have hsplit : r.encode ++ rest = words.flatMap (Bytes.littleEndian 4) ++ (r.frame ++ rest) := by
    simp [words, Record.encode, Bytes.ofWord32]
  have hfield {i : Nat} (hi : i < words.length) :
      (heading snaplen).layout.field (words.flatMap (Bytes.littleEndian 4)) (4 * i) 4 =
        words[i] := Layout.field_words rfl hwords hi
  have htick : (heading snaplen).layout.tick = 1000 := rfl
  have hseconds' : (heading snaplen).layout.field _ 0 4 = r.time.seconds :=
    hfield (i := 0) (by simp [words])
  have hmicros' : (heading snaplen).layout.field _ 4 4 = r.time.nanoseconds / 1000 :=
    hfield (i := 1) (by simp [words])
  have hlength' : (heading snaplen).layout.field _ 8 4 = r.frame.length :=
    hfield (i := 2) (by simp [words])
  have hwhole' : (heading snaplen).layout.field _ 12 4 = r.wholeLength.toNat :=
    hfield (i := 3) (by simp [words])
  have hfraction : r.time.nanoseconds / 1000 * 1000 < 1000000000 := by omega
  rw [readRecord?, hsplit, cut?_append hheader, Option.bind_some]
  simp only [readFrame?, htick, hseconds', hmicros', hlength', hwhole', cut?_append]
  rw [if_pos ⟨hfraction, hsnaplen, hwhole⟩]
  simp [Record.cutTime]

/-- Records that fit are read back from their encodings, up to what the file keeps of their
times. -/
theorem readRecords?_flatMap {snaplen : UInt32} {records : List Record}
    (hfits : ∀ r ∈ records, r.Fits snaplen) (htimes : ∀ r ∈ records, r.time.Normal) :
    readRecords? (heading snaplen) (records.flatMap Record.encode) =
      some (records.map Record.cutTime) := by
  induction records with
  | nil =>
    rw [readRecords?]
    rfl
  | cons r rest ih =>
    have hrest := ih (fun r' hr' => hfits r' (List.mem_cons_of_mem r hr')) fun r' hr' =>
      htimes r' (List.mem_cons_of_mem r hr')
    have hread := readRecord?_encode_append (hfits r List.mem_cons_self)
      (htimes r List.mem_cons_self) (rest.flatMap Record.encode)
    have hmore : (r.encode ++ rest.flatMap Record.encode).isEmpty = false := by
      simp [Record.encode, Bytes.littleEndian]
    rw [List.flatMap_cons, readRecords?, hmore, if_neg Bool.false_ne_true]
    split
    · rename_i hnone
      simp [hread] at hnone
    · rename_i r' behind hsome
      obtain ⟨rfl, rfl⟩ := Prod.mk.inj (Option.some.inj (hread.symm.trans hsome))
      rw [hrest]
      rfl

/-- A whole file of records. -/
def contents (snaplen : UInt32) (records : List Record) : Bytes :=
  fileHeader snaplen ++ records.flatMap Record.encode

/-- A file of records that fit reads back: the link type, the snapshot length, and every record. -/
theorem read?_contents {snaplen : UInt32} {records : List Record}
    (hfits : ∀ r ∈ records, r.Fits snaplen) (htimes : ∀ r ∈ records, r.time.Normal) :
    read? (contents snaplen records) = some (heading snaplen, records.map Record.cutTime) := by
  have hheader := cut?_append (length_fileHeader snaplen) (records.flatMap Record.encode)
  have hrecords := readRecords?_flatMap hfits htimes
  simp only [read?, contents, hheader, Option.bind_some, parse?_fileHeader, hrecords,
    Option.map_some]

end Pcap
end SampleTap
