import SampleTap.Error

/-!
# Messages

A netlink datagram holds messages back to back, each padded to four bytes. A message is a
sixteen-byte header and a payload; the header's length counts both but not the padding.

* `Message.step` takes one message off a datagram, and `step_shorter` says that this makes the
  datagram shorter.
* `Message.split` reads a whole datagram: the messages before the first that is out of bounds, and
  what is wrong with that one. Trailing bytes too short for a header are ignored.
* `Message.Cursor` walks a datagram and ends for good after a fault.
-/

namespace SampleTap

namespace Message

/-! ## Headers -/

/-- The size of a message's header. -/
def headerLength : Nat := 16

/-- The header of a message. -/
structure Header where
  /-- The length of header and payload. -/
  length : UInt32
  /-- A family's number, or one of the control types. -/
  type : UInt16
  flags : UInt16
  /-- The sequence number of the request that the message belongs to. -/
  seq : UInt32
  /-- The address of the sender; zero for the kernel. -/
  sender : UInt32
deriving DecidableEq, Repr

namespace Header

/-- The header of an empty message. -/
def empty (type flags : UInt16) : Header := ⟨UInt32.ofNat headerLength, type, flags, 0, 0⟩

/-- The bytes of a header. -/
def encode (h : Header) : Bytes :=
  Bytes.ofWord32 h.length ++ Bytes.ofWord16 h.type ++ Bytes.ofWord16 h.flags ++
    Bytes.ofWord32 h.seq ++ Bytes.ofWord32 h.sender

@[simp] theorem length_encode (h : Header) : h.encode.length = headerLength := by
  simp [encode, headerLength]

/-- The header that `data` starts with. -/
def decode? (data : Bytes) : Option Header := do
  let length ← Bytes.word32? data
  let type ← Bytes.word16? (data.drop 4)
  let flags ← Bytes.word16? (data.drop 6)
  let seq ← Bytes.word32? (data.drop 8)
  let sender ← Bytes.word32? (data.drop 12)
  return ⟨length, type, flags, seq, sender⟩

/-- The header that `data` starts with, or the error that there is none. -/
def read (data : Bytes) : Except Error Header :=
  match decode? data with
  | some h => .ok h
  | none => .error (.truncated headerLength data.length)

end Header

end Message

/-- A message: its header, and its payload without padding. -/
structure Message where
  header : Message.Header
  payload : Bytes
deriving DecidableEq, Repr

namespace Message

/-! ## Types and flags -/

/-- A message without meaning. -/
def noopType : UInt16 := 1

/-- A report on a request; its error code zero acknowledges the request. -/
def errorType : UInt16 := 2

/-- The end of a reply of several messages. -/
def doneType : UInt16 := 3

/-- Data was lost; without meaning to a receiver. -/
def overrunType : UInt16 := 4

/-- Marks a request. -/
def requestFlag : UInt16 := 0x1

/-- Asks for an acknowledgement. -/
def ackFlag : UInt16 := 0x4

/-- Asks for every object. -/
def dumpFlag : UInt16 := 0x300

/-- Whether the message ends a reply of several messages. -/
def Header.isDone (h : Header) : Bool := h.type == doneType

/-! ## Taking one message -/

/-- What stands at the start of a datagram. -/
inductive Step
  /-- Too few bytes for a header: the datagram is over. -/
  | finished
  /-- A header whose length is out of bounds. -/
  | malformed (cause : Error)
  /-- A message, and the datagram behind it and its padding. -/
  | found (item : Message) (rest : Bytes)

/-- Takes the first message off a datagram. The last message may lack its padding. -/
def step (data : Bytes) : Step :=
  match Header.decode? data with
  | none => .finished
  | some h =>
    if h.length.toNat < headerLength || !Bytes.holds h.length.toNat data then
      .malformed (.invalidMessage (.lengthOutOfBounds h.length.toNat data.length))
    else
      .found ⟨h, (data.take h.length.toNat).drop headerLength⟩
        (data.drop (Bytes.align h.length.toNat))

theorem Header.length_of_decode? {data : Bytes} {h : Header} (hd : decode? data = some h) :
    headerLength ≤ data.length := by
  simp only [decode?, Option.bind_eq_bind, Option.bind_eq_some_iff, Bytes.word32?] at hd
  obtain ⟨_, -, _, -, _, -, _, -, _, hp, -⟩ := hd
  split at hp
  · rename_i hh
    rw [Bytes.holds_iff, List.length_drop] at hh
    simp only [headerLength]
    omega
  · simp at hp

theorem step_shorter {data : Bytes} {m : Message} {rest : Bytes}
    (h : step data = .found m rest) : rest.length < data.length := by
  unfold step at h
  split at h
  · simp at h
  · rename_i hd hdec
    split at h
    · simp at h
    · rename_i hlen
      simp only [Bool.or_eq_true, decide_eq_true_eq, Bool.not_eq_true', not_or] at hlen
      injection h with _ hrest
      have hpos := Header.length_of_decode? hdec
      have hal := Bytes.le_align hd.length.toNat
      have : headerLength = 16 := rfl
      rw [← hrest, List.length_drop]
      omega

/-! ## Reading a whole datagram -/

/-- The messages of a datagram up to its first malformed one, and what is wrong with that one. -/
def split (data : Bytes) : List Message × Option Error :=
  match h : step data with
  | .finished => ([], none)
  | .malformed cause => ([], some cause)
  | .found m rest =>
    have := step_shorter h
    let (messages, fault?) := split rest
    (m :: messages, fault?)
termination_by data.length

/-! ## Cursors -/

/-- A position in a datagram that reports a malformed message once. -/
structure Cursor where
  /-- What has not been read yet. -/
  remaining : Bytes

namespace Cursor

/-- The next message or the fault in its place, and the position behind it. Nothing follows a
fault. -/
def next? (c : Cursor) : Option (Except Error Message × Cursor) :=
  match step c.remaining with
  | .finished => none
  | .malformed cause => some (.error cause, ⟨[]⟩)
  | .found m rest => some (.ok m, ⟨rest⟩)

theorem next?_shorter {c c' : Cursor} {item : Except Error Message}
    (h : c.next? = some (item, c')) : c'.remaining.length < c.remaining.length := by
  unfold next? at h
  split at h
  · simp at h
  · rename_i hs
    simp only [Option.some.injEq, Prod.mk.injEq] at h
    obtain ⟨-, rfl⟩ := h
    cases hc : c.remaining with
    | nil => simp [hc, step, Header.decode?, Bytes.word32?, Bytes.holds] at hs
    | cons b rest => simp
  · rename_i hs
    simp only [Option.some.injEq, Prod.mk.injEq] at h
    obtain ⟨-, rfl⟩ := h
    exact step_shorter hs

/-- Every item that follows. -/
def drain (c : Cursor) : List (Except Error Message) :=
  match h : c.next? with
  | none => []
  | some (item, c') =>
    have := next?_shorter h
    item :: drain c'
termination_by c.remaining.length

end Cursor

/-! ## Reports on requests -/

/-- The payload of a report on a request. -/
structure Report where
  /-- The negated error number, or zero for an acknowledgement. -/
  code : Int32
  /-- The header of the request. -/
  request : Header
deriving DecidableEq, Repr

namespace Report

/-- The size of a report. -/
def length : Nat := 4 + headerLength

/-- Whether the request succeeded. -/
def isAck (r : Report) : Bool := r.code == 0

/-- The report that a payload starts with. -/
def read (payload : Bytes) : Except Error Report :=
  let report? : Option Report := do
    let code ← Bytes.int32? payload
    let request ← Header.decode? (payload.drop 4)
    return ⟨code, request⟩
  match report? with
  | some report => .ok report
  | none => .error (.truncated length payload.length)

end Report

end Message

end SampleTap
