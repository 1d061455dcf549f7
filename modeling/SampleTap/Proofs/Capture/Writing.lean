import Mathlib.Tactic.SplitIfs
import SampleTap.Proofs.Capture
import SampleTap.Proofs.Capture.Reading

/-!
# Writing capture files

What is written to a file whose destination takes any number of bytes reads back, record by record,
whatever else was turned down on the way (`PcapFile.reads_back`). The invariant is how far a file
has come: what reached its destination, together with what waits for a flush, is the whole file of
the records that fit (`PcapFile.Keeps`). It holds of a new file, every step keeps it, and after a
flush nothing waits.

The frames of a capture are steps of that kind, as long as its snapshot length is not above that of
its file: they then fit whatever the datagrams are, unless the clock has run out of its thirty-two
bits (`Capture.fits_frameRecord`).
-/

namespace SampleTap

open Pcap (Record)

/-! ## Writers -/

/-- How far a writer that takes any number of bytes has come: `output` has reached its destination,
and with what waits that is `content`. -/
structure Writer.Carries (w : Writer) (output content : Bytes) : Prop where
  unlimited : w.room = none
  /-- Only a writer that holds bytes back has some that wait. -/
  direct : w.buffered = false → w.held = []
  complete : output ++ w.held = content

namespace Writer

theorem emit_of_unlimited {w : Writer} (h : w.room = none) (data : Bytes) :
    emit data w = ⟨w, [data], .ok ()⟩ := by
  simp only [emit, h]

/-- Writing puts data behind what the writer carries, through its buffer or past it. -/
theorem Carries.put {w : Writer} {output content : Bytes} (h : w.Carries output content)
    (data : Bytes) : ∃ w' pieces, put data w = ⟨w', pieces, .ok ()⟩ ∧
      w'.Carries (output ++ pieces.flatten) (content ++ data) := by
  by_cases hbuffered : w.buffered
  · refine ⟨{ w with held := w.held ++ data }, [], if_pos hbuffered, h.unlimited, ?_, ?_⟩
    · intro hdirect
      have hnot : w.buffered = false := hdirect
      rw [hbuffered] at hnot
      contradiction
    · show output ++ [] ++ (w.held ++ data) = content ++ data
      rw [List.append_nil, ← List.append_assoc, h.complete]
  · -- Nothing waits, so the new bytes do not overtake any.
    have hheld : w.held = [] := h.direct (eq_false_of_ne_true hbuffered)
    have houtput : output = content := by rw [← h.complete, hheld, List.append_nil]
    refine ⟨w, [data], ?_, h.unlimited, h.direct, ?_⟩
    · rw [Writer.put, if_neg hbuffered, emit_of_unlimited h.unlimited]
    · rw [hheld, houtput, List.append_nil, List.flatten_singleton]

/-- Behind a flush nothing waits. -/
theorem Carries.flush {w : Writer} {output content : Bytes} (h : w.Carries output content) :
    ∃ w' pieces, flush w = ⟨w', pieces, .ok ()⟩ ∧ output ++ pieces.flatten = content ∧
      w'.Carries content content := by
  unfold Writer.flush
  cases hheld : w.held with
  | nil =>
    have houtput : output = content := by rw [← h.complete, hheld, List.append_nil]
    have hsame : output ++ [].flatten = content := by
      rw [List.flatten_nil, List.append_nil, houtput]
    exact ⟨w, [], rfl, hsame, houtput ▸ h⟩
  | cons b rest =>
    refine ⟨{ w with held := [] }, [b :: rest], ?_, ?_, h.unlimited, fun _ => rfl,
      List.append_nil content⟩
    · rw [List.isEmpty_cons, if_neg Bool.false_ne_true]
      exact emit_of_unlimited (w := { w with held := [] }) h.unlimited (b :: rest)
    · rw [List.flatten_singleton, ← hheld, h.complete]

end Writer

/-! ## Steps -/

/-- The crate finds no fault in a record exactly if the record fits. -/
theorem Pcap.Record.fault?_eq_none_iff {snaplen : UInt32} {r : Record} :
    r.fault? snaplen = none ↔ r.Fits snaplen := by
  unfold fault? Fits
  split_ifs <;> simp <;> omega

theorem Pcap.Record.exists_fault {snaplen : UInt32} {r : Record} (h : ¬ r.Fits snaplen) :
    ∃ fault, r.fault? snaplen = some fault :=
  Option.ne_none_iff_exists'.mp (mt fault?_eq_none_iff.mp h)

namespace PcapFile

/-- What is done with a file. -/
inductive Step
  | append (r : Record)
  | flush

namespace Step

def run : Step → Action Bytes PcapFile Unit
  | append r => PcapFile.append r
  | flush => PcapFile.flush

/-- What comes of a step with a file of a given snapshot length. -/
def outcome (snaplen : UInt32) : Step → Except Error Unit
  | append r =>
    match r.fault? snaplen with
    | some fault => .error (.capture fault)
    | none => .ok ()
  | flush => .ok ()

/-- The record that a step adds. -/
def kept? (snaplen : UInt32) : Step → Option Record
  | append r => if r.Fits snaplen then some r else none
  | flush => none

theorem filterMap_kept?_cons {snaplen : UInt32} (step : Step) (rest : List Step) :
    (step :: rest).filterMap (kept? snaplen) =
      (step.kept? snaplen).toList ++ rest.filterMap (kept? snaplen) := by
  rw [List.filterMap_cons]
  cases step.kept? snaplen with
  | none => rfl
  | some r => rfl

theorem outcome_of_fits {snaplen : UInt32} {r : Record} (h : r.Fits snaplen) :
    outcome snaplen (append r) = .ok () := by
  simp only [outcome, Record.fault?_eq_none_iff.mpr h]

theorem fits_of_kept? {snaplen : UInt32} {steps : List Step} :
    ∀ r ∈ steps.filterMap (kept? snaplen), r.Fits snaplen ∧ append r ∈ steps := by
  intro r hmem
  obtain ⟨step, hstep, hkept⟩ := List.mem_filterMap.mp hmem
  cases step with
  | flush => simp [kept?] at hkept
  | append r' =>
    rw [kept?, Option.ite_none_right_eq_some] at hkept
    obtain ⟨hfits, rfl⟩ : r'.Fits snaplen ∧ r' = r := by simpa using hkept
    exact ⟨hfits, hstep⟩

end Step

/-! ## Files -/

/-- How far a file has come: `output` has reached its destination, and the rest of the file of
`records` waits. -/
structure Keeps (file : PcapFile) (snaplen : UInt32) (records : List Record) (output : Bytes) :
    Prop where
  snaplen_eq : file.snaplen = snaplen
  carries : file.writer.Carries output (Pcap.contents snaplen records)

theorem onWriter_eq {α : Type} {act : Writer.Act α} {file : PcapFile} {w : Writer}
    {pieces : List Bytes} {result : Except Error α} (h : act file.writer = ⟨w, pieces, result⟩) :
    onWriter act file = ⟨{ file with writer := w }, pieces, result⟩ := by
  rw [onWriter, Action.on, h, List.map_id]

/-- A new file has its header. -/
theorem exists_keeps_create (snaplen : UInt32) (buffered : Bool) :
    ∃ file pieces, create snaplen { buffered } = ⟨file.writer, pieces, .ok file⟩ ∧
      file.Keeps snaplen [] pieces.flatten := by
  have hnew : Writer.Carries { buffered } [] [] := ⟨rfl, fun _ => rfl, rfl⟩
  obtain ⟨w, pieces, hput, hcarries⟩ := hnew.put (Pcap.fileHeader snaplen)
  refine ⟨⟨snaplen, w⟩, pieces, ?_, rfl, ?_⟩
  · simp only [create, hput]
    rfl
  · rw [Pcap.contents, List.flatMap_nil, List.append_nil]
    exact hcarries

/-- A record that does not fit changes nothing. -/
theorem append_of_fault {snaplen : UInt32} {file : PcapFile} (hsnaplen : file.snaplen = snaplen)
    {r : Record} {fault : CaptureFault} (h : r.fault? snaplen = some fault) :
    append r file = ⟨file, [], .error (.capture fault)⟩ := by
  simp only [append, hsnaplen, h]

namespace Keeps

variable {file : PcapFile} {snaplen : UInt32} {records : List Record} {output : Bytes}

/-- A record that fits is kept behind the others. -/
theorem append_of_fits (h : file.Keeps snaplen records output) {r : Record}
    (hfits : r.Fits snaplen) : ∃ file' pieces, append r file = ⟨file', pieces, .ok ()⟩ ∧
      file'.Keeps snaplen (records ++ [r]) (output ++ pieces.flatten) := by
  obtain ⟨w, pieces, hput, hcarries⟩ := h.carries.put r.encode
  have hcontents : Pcap.contents snaplen records ++ r.encode =
      Pcap.contents snaplen (records ++ [r]) := by
    simp [Pcap.contents]
  refine ⟨{ file with writer := w }, pieces, ?_, h.snaplen_eq, hcontents ▸ hcarries⟩
  have hfault : r.fault? file.snaplen = none := by
    rw [h.snaplen_eq]
    exact Record.fault?_eq_none_iff.mpr hfits
  simp only [append, hfault]
  exact onWriter_eq hput

/-- Behind a flush the output is the file with all records that were kept. -/
theorem flush (h : file.Keeps snaplen records output) :
    ∃ file' pieces, flush file = ⟨file', pieces, .ok ()⟩ ∧
      output ++ pieces.flatten = Pcap.contents snaplen records ∧
      file'.Keeps snaplen records (output ++ pieces.flatten) := by
  obtain ⟨w, pieces, hflush, hcomplete, hcarries⟩ := h.carries.flush
  exact ⟨{ file with writer := w }, pieces, onWriter_eq hflush, hcomplete, h.snaplen_eq,
    hcomplete.symm ▸ hcarries⟩

/-- A step keeps the record that it appends, if that fits, and loses none. -/
theorem step (h : file.Keeps snaplen records output) (step : Step) :
    ∃ file' pieces, step.run file = ⟨file', pieces, step.outcome snaplen⟩ ∧
      file'.Keeps snaplen (records ++ (step.kept? snaplen).toList) (output ++ pieces.flatten) := by
  cases step with
  | flush =>
    obtain ⟨file', pieces, hflush, -, hkeeps⟩ := h.flush
    refine ⟨file', pieces, hflush, ?_⟩
    rw [Step.kept?, Option.toList_none, List.append_nil]
    exact hkeeps
  | append r =>
    by_cases hfits : r.Fits snaplen
    · obtain ⟨file', pieces, happend, hkeeps⟩ := h.append_of_fits hfits
      rw [Step.outcome_of_fits hfits, Step.kept?, if_pos hfits]
      exact ⟨file', pieces, happend, hkeeps⟩
    · obtain ⟨fault, hsome⟩ := Record.exists_fault hfits
      refine ⟨file, [], ?_, ?_⟩
      · rw [Step.run, append_of_fault h.snaplen_eq hsome, Step.outcome, hsome]
      · rw [Step.kept?, if_neg hfits, Option.toList_none, List.append_nil, List.flatten_nil,
          List.append_nil]
        exact h

/-- What a run of steps adds are the records that fit. -/
theorem each (h : file.Keeps snaplen records output) (steps : List Step) :
    ∃ file' pieces, Action.each (steps.map Step.run) file =
        ⟨file', pieces, .ok (steps.map (Step.outcome snaplen))⟩ ∧
      file'.Keeps snaplen (records ++ steps.filterMap (Step.kept? snaplen))
        (output ++ pieces.flatten) := by
  induction steps generalizing file records output with
  | nil =>
    refine ⟨file, [], rfl, ?_⟩
    rw [List.filterMap_nil, List.flatten_nil, List.append_nil, List.append_nil]
    exact h
  | cons step rest ih =>
    obtain ⟨file', pieces, hstep, hkeeps⟩ := h.step step
    obtain ⟨file'', pieces', hrest, hkeeps'⟩ := ih hkeeps
    refine ⟨file'', pieces ++ pieces', Action.each_cons hstep hrest, ?_⟩
    rw [Step.filterMap_kept?_cons, List.flatten_append, ← List.append_assoc, ← List.append_assoc]
    exact hkeeps'

end Keeps

end PcapFile

/-! ## Captures -/

/-- The bytes of files that are written out. -/
def SinkCall.bytes : SinkCall → Bytes
  | written data => data
  | _ => []

theorem SinkCall.flatMap_bytes_written (pieces : List Bytes) :
    (pieces.map written).flatMap bytes = pieces.flatten := by
  rw [List.flatMap_map]
  exact List.flatMap_id

namespace Sink

variable {file file' : PcapFile} {pieces : List Bytes} {result : Except Error Unit}

/-- Writing to a file is one move, and then what the file writes. -/
theorem write_file {r : Record} (h : file.append r = ⟨file', pieces, result⟩) :
    write r (.file file) =
      ⟨.file file', .frame r.frame r.wholeLength (succeeded result) :: pieces.map .written,
        result⟩ := by
  simp only [write, h]

theorem flush_file (h : file.flush = ⟨file', pieces, result⟩) :
    flush (.file file) =
      ⟨.file file', .flushed (succeeded result) :: pieces.map .written, result⟩ := by
  simp only [flush, h]

end Sink

namespace Capture

/-- The record of the frame of a datagram, by the ordinal of the frame. -/
def frameRecord (snaplen : UInt32) (clock : Clock) (datagram : Bytes) (ordinal : Nat) : Record :=
  let frame := Frame.ofDatagram snaplen datagram
  ⟨clock ordinal, frame, UInt32.ofNat frame.length⟩

/-- What a capture does with its file for datagrams, from the frame of a given ordinal on. -/
def steps (snaplen : UInt32) (clock : Clock) (datagrams : List Bytes) (first : Nat) :
    List PcapFile.Step :=
  (datagrams.zipIdx first).map fun (datagram, ordinal) =>
    .append (frameRecord snaplen clock datagram ordinal)

/-- A frame is cut to fit, and counts as being that long from the start: a file whose snapshot
length is not below the capture's takes it while the clock has thirty-two bits of seconds. -/
theorem fits_frameRecord {snaplen fileSnaplen : UInt32}
    (hroom : Frame.headerLength < snaplen.toNat) (hle : snaplen ≤ fileSnaplen) {clock : Clock}
    {ordinal : Nat} (hclock : (clock ordinal).seconds < 0x100000000) (datagram : Bytes) :
    (frameRecord snaplen clock datagram ordinal).Fits fileSnaplen := by
  have hfits := Frame.length_ofDatagram_le (Nat.le_of_lt hroom) datagram
  have hwhole := Frame.toNat_length_ofDatagram (Nat.le_of_lt hroom) datagram
  refine ⟨hclock, Nat.le_trans hfits (UInt32.le_iff_toNat_le.mp hle), ?_⟩
  exact Nat.le_of_eq hwhole.symm

/-- A primed buffer that is refilled holds the record of the new datagram, and nothing of the one
before. -/
theorem Primed.record_refill {c : Capture} (h : c.Primed) (datagram : Bytes) :
    (c.refill datagram).record = frameRecord c.snaplen c.clock datagram c.frames := by
  rw [frameRecord, record, h.buffer_refill]
  rfl

variable {c : Capture} {file : PcapFile} {snaplen : UInt32} {records : List Record}
  {output : Bytes}

/-- A datagram is a step of the file. -/
theorem Primed.exists_keeps_write (h : c.Primed) (hsink : c.sink = .file file)
    (hkeeps : file.Keeps snaplen records output) (datagram : Bytes) :
    let step := PcapFile.Step.append (frameRecord c.snaplen c.clock datagram c.frames)
    ∃ file' calls, c.write datagram =
        ⟨{ c.refill datagram with frames := c.frames + 1, sink := .file file' }, calls,
          step.outcome snaplen⟩ ∧
      file'.Keeps snaplen (records ++ (step.kept? snaplen).toList)
        (output ++ calls.flatMap SinkCall.bytes) := by
  intro step
  have hbytes (head : SinkCall) (hhead : head.bytes = []) (pieces : List Bytes) :
      (head :: pieces.map SinkCall.written).flatMap SinkCall.bytes = pieces.flatten := by
    rw [List.flatMap_cons, hhead, SinkCall.flatMap_bytes_written, List.nil_append]
  obtain ⟨file', pieces, happend, hkeeps'⟩ := hkeeps.step step
  have hhanded := Sink.write_file happend
  rw [← h.record_refill, ← hsink] at hhanded
  obtain ⟨e, hrefused, hwrite⟩ | ⟨htaken, hwrite⟩ := c.write_cases datagram
  · rw [hhanded] at hrefused hwrite
    refine ⟨file', _, hrefused ▸ hwrite, ?_⟩
    rw [hbytes _ rfl]
    exact hkeeps'
  · obtain ⟨file'', pieces', hflush, -, hkeeps''⟩ := hkeeps'.flush
    rw [hhanded] at htaken hwrite
    rw [Sink.flush_file hflush] at hwrite
    refine ⟨file'', _, htaken ▸ hwrite, ?_⟩
    rw [List.flatMap_append, hbytes _ rfl, hbytes _ rfl, ← List.append_assoc]
    exact hkeeps''

/-- A run of datagrams is a run of steps of the file. -/
theorem Primed.exists_keeps_each (h : c.Primed) (hsink : c.sink = .file file)
    (hkeeps : file.Keeps snaplen records output) (datagrams : List Bytes) :
    let steps := steps c.snaplen c.clock datagrams c.frames
    ∃ c' file' calls, Action.each (datagrams.map Capture.write) c =
        ⟨c', calls, .ok (steps.map (PcapFile.Step.outcome snaplen))⟩ ∧
      c'.sink = .file file' ∧
      file'.Keeps snaplen (records ++ steps.filterMap (PcapFile.Step.kept? snaplen))
        (output ++ calls.flatMap SinkCall.bytes) := by
  intro steps
  induction datagrams generalizing c file records output with
  | nil =>
    refine ⟨c, file, [], rfl, hsink, ?_⟩
    simpa [steps, Capture.steps] using hkeeps
  | cons datagram rest ih =>
    obtain ⟨file', calls, hwrite, hkeeps'⟩ := h.exists_keeps_write hsink hkeeps datagram
    have hprimed : ({ c.refill datagram with
        frames := c.frames + 1, sink := .file file' } : Capture).Primed :=
      ⟨(h.refill datagram).header, h.room⟩
    obtain ⟨c', file'', calls', hrest, hsink', hkeeps''⟩ := ih hprimed rfl hkeeps'
    refine ⟨c', file'', calls ++ calls', Action.each_cons hwrite hrest, hsink', ?_⟩
    have hsteps : steps = .append (frameRecord c.snaplen c.clock datagram c.frames) ::
        Capture.steps c.snaplen c.clock rest (c.frames + 1) := rfl
    rw [hsteps, PcapFile.Step.filterMap_kept?_cons, List.flatMap_append, ← List.append_assoc,
      ← List.append_assoc]
    exact hkeeps''

/-- The end of a capture writes out what is left of its file. -/
theorem bytes_finish (hsink : c.sink = .file file) (hkeeps : file.Keeps snaplen records output) :
    output ++ c.finish.1.flatMap SinkCall.bytes = Pcap.contents snaplen records := by
  obtain ⟨file', pieces, hflush, hcomplete, hkeeps'⟩ := hkeeps.flush
  obtain ⟨file'', pieces', hrelease, hcomplete', -⟩ := hkeeps'.flush
  have hsunk := Sink.flush_file hflush
  have hcalls : c.finish.1 = (.flushed true :: pieces.map .written) ++ pieces'.map .written := by
    simp only [finish, onSink_eq, hsink, hsunk, Sink.release, hrelease]
    rfl
  rw [hcalls, List.flatMap_append, List.flatMap_cons, SinkCall.flatMap_bytes_written,
    SinkCall.flatMap_bytes_written, ← List.append_assoc]
  exact hcomplete'

end Capture

/-! ## Reading back -/

/-- Whether an output is the file of some records, and is read as such. -/
structure Pcap.IsFileOf (snaplen : UInt32) (records : List Record) (output : Bytes) : Prop where
  contents_eq : output = contents snaplen records
  /-- A reader gets the snapshot length, the link type of netlink, and the records with their times
  cut to microseconds. -/
  read_eq : read? output = some (heading snaplen, records.map Record.cutTime)

namespace PcapFile

/-- What is kept of a run of steps is a file that reads back. -/
theorem isFileOf_kept {snaplen : UInt32} {steps : List Step}
    (htimes : ∀ r, .append r ∈ steps → r.time.Normal) {output : Bytes}
    (h : output = Pcap.contents snaplen (steps.filterMap (Step.kept? snaplen))) :
    Pcap.IsFileOf snaplen (steps.filterMap (Step.kept? snaplen)) output := by
  refine ⟨h, ?_⟩
  rw [h]
  apply Pcap.read?_contents
  · intro r hr
    exact (Step.fits_of_kept? r hr).1
  · intro r hr
    exact htimes r (Step.fits_of_kept? r hr).2

/-- A file whose destination takes any number of bytes reads back, whatever is written to it in
whatever order, and whether or not bytes wait for a flush. Each record that fits is taken; one that
does not is an error and changes nothing. What has reached the destination after a flush is the file
of the records that were taken, in order.

It is the same with the frames of a capture behind such steps, when its snapshot length is not above
that of the file. All of them fit for which the clock has thirty-two bits of seconds, whatever the
datagrams are. -/
theorem reads_back (snaplen : UInt32) (buffered : Bool) (steps : List Step)
    (htimes : ∀ r, .append r ∈ steps → r.time.Normal) :
    ∃ file opening file' pieces,
      create snaplen { buffered } = ⟨file.writer, opening, .ok file⟩ ∧
      Action.each (steps.map Step.run) file =
        ⟨file', pieces, .ok (steps.map (Step.outcome snaplen))⟩ ∧
      Pcap.IsFileOf snaplen (steps.filterMap (Step.kept? snaplen))
        (opening ++ pieces ++ (flush file').trace).flatten ∧
      (∀ r, r.Fits snaplen → (append r file').result = .ok ()) ∧
      (∀ r, ¬ r.Fits snaplen →
        ∃ fault, append r file' = ⟨file', [], .error (.capture fault)⟩) ∧
      ∀ captureSnaplen clock datagrams, Frame.headerLength < captureSnaplen.toNat →
        captureSnaplen ≤ snaplen → (∀ ordinal, (clock ordinal).Normal) →
        let frames := Capture.steps captureSnaplen clock datagrams 0
        ∃ c c' calls,
          Capture.start (.file file') captureSnaplen clock = .ok c ∧
          Action.each (datagrams.map Capture.write) c =
            ⟨c', calls, .ok (frames.map (Step.outcome snaplen))⟩ ∧
          (∀ ordinal datagram, (clock ordinal).seconds < 0x100000000 →
            let r := Capture.frameRecord captureSnaplen clock datagram ordinal
            r.Fits snaplen ∧ Step.outcome snaplen (.append r) = .ok ()) ∧
          Pcap.IsFileOf snaplen ((steps ++ frames).filterMap (Step.kept? snaplen))
            ((opening ++ pieces).flatten ++ (calls ++ c'.finish.1).flatMap SinkCall.bytes) := by
  obtain ⟨file, opening, hcreate, hnew⟩ := exists_keeps_create snaplen buffered
  obtain ⟨file', pieces, heach, hkeeps⟩ := hnew.each steps
  rw [List.nil_append, ← List.flatten_append] at hkeeps
  refine ⟨file, opening, file', pieces, hcreate, heach, ?_, ?_, ?_, ?_⟩
  · obtain ⟨_, pieces', hflush, hcomplete, -⟩ := hkeeps.flush
    apply isFileOf_kept htimes
    rw [hflush, List.flatten_append, hcomplete]
  · intro r hfits
    obtain ⟨_, _, happend, -⟩ := hkeeps.append_of_fits hfits
    rw [happend]
  · intro r hfits
    obtain ⟨fault, hfault⟩ := Record.exists_fault hfits
    exact ⟨fault, append_of_fault hkeeps.snaplen_eq hfault⟩
  · intro captureSnaplen clock datagrams hroom hle hclock frames
    have hprimed := Capture.primed_of_room hroom (.file file') clock
    obtain ⟨c', file'', calls, hwrites, hsink, hkeeps'⟩ :=
      hprimed.exists_keeps_each rfl hkeeps datagrams
    refine ⟨_, c', calls, Capture.start_of_room hroom _ clock, hwrites, ?_, ?_⟩
    · intro ordinal datagram hseconds
      have hfits := Capture.fits_frameRecord hroom hle hseconds datagram
      exact ⟨hfits, Step.outcome_of_fits hfits⟩
    · apply isFileOf_kept
      · intro r hmem
        rcases List.mem_append.mp hmem with hstep | hframe
        · exact htimes r hstep
        · obtain ⟨⟨datagram, ordinal⟩, -, heq⟩ := List.mem_map.mp hframe
          rw [← Step.append.inj heq]
          exact hclock ordinal
      · rw [List.flatMap_append, ← List.append_assoc, Capture.bytes_finish hsink hkeeps',
          List.filterMap_append]

/-- One record is turned down, and the frame of a capture is cut. -/
theorem reads_back_cut_frame :
    let steps : List Step :=
      [.append ⟨⟨1, 500000700⟩, [7, 7], 9⟩, .flush, .append ⟨⟨2, 0⟩, [7, 7], 1⟩]
    (∀ r, .append r ∈ steps → r.time.Normal) ∧
    ∃ file opening file' pieces,
      create 64 { buffered := true } = ⟨file.writer, opening, .ok file⟩ ∧
      Action.each (steps.map Step.run) file =
        ⟨file', pieces, .ok [.ok (), .ok (), .error (.capture .frameAboveWhole)]⟩ ∧
      ∃ c c' calls,
        Capture.start (.file file') 20 (fun _ => ⟨3, 999⟩) = .ok c ∧
        Action.each ([[1, 2, 3, 4, 5, 6]].map Capture.write) c = ⟨c', calls, .ok [.ok ()]⟩ ∧
        Pcap.read? ((opening ++ pieces).flatten ++
            (calls ++ c'.finish.1).flatMap SinkCall.bytes) =
          some (Pcap.heading 64, [⟨⟨1, 500000000⟩, [7, 7], 9⟩,
            ⟨⟨3, 0⟩, Frame.header ++ [1, 2, 3, 4], 20⟩]) := by
  intro steps
  have htimes : ∀ r, .append r ∈ steps → r.time.Normal := by
    intro r hmem
    simp only [steps, List.mem_cons, Step.append.injEq, reduceCtorEq, List.not_mem_nil, or_false,
      false_or] at hmem
    rcases hmem with rfl | rfl <;> decide
  obtain ⟨file, opening, file', pieces, hcreate, heach, -, -, -, hcapture⟩ :=
    reads_back 64 true steps htimes
  obtain ⟨c, c', calls, hstart, hwrites, -, hfile⟩ :=
    hcapture 20 (fun _ => ⟨3, 999⟩) [[1, 2, 3, 4, 5, 6]] (by decide) (by decide)
      (fun _ => by decide)
  exact ⟨htimes, file, opening, file', pieces, hcreate, heach, c, c', calls, hstart, hwrites,
    hfile.read_eq⟩

end PcapFile
end SampleTap
