import SampleTap.Error

/-!
# Attributes

A netlink attribute is a length, a type and a payload, padded to four bytes. The length counts the
header and the payload but not the padding; the two top bits of the type are flags and no part of
the attribute's number. A header is read where it stands, which takes an even address.

* `Attribute.step` takes one attribute off a stream, and `step_shorter` says that this makes the
  stream shorter.
* `Attribute.split` reads a whole stream: the attributes before the first malformed one, and what is
  wrong with that one.
* `Attribute.Cursor` walks a stream and stops silently where it is malformed; `StrictCursor` reports
  the fault once and then ends. A cursor starts at a buffer (`Cursor.start`), which is aligned, or
  inside one (`Cursor.within`).
-/

namespace SampleTap

/-- An attribute: its number without flag bits, and its payload without padding. -/
structure Attribute where
  kind : UInt16
  payload : Bytes
deriving DecidableEq, Repr

namespace Attribute

/-! ## Headers -/

/-- The size of an attribute's header. -/
def headerLength : Nat := 4

/-- Marks an attribute whose payload is an attribute stream. -/
def nestedFlag : UInt16 := 0x8000

/-- The bits of a type that carry the attribute's number. -/
def kindMask : UInt16 := 0x3fff

/-- The header of an attribute. -/
structure Header where
  /-- The length of header and payload. -/
  length : UInt16
  /-- The number together with the flag bits. -/
  type : UInt16
deriving DecidableEq, Repr

namespace Header

/-- The header of an attribute with `payload` bytes of payload. The length field has sixteen bits
and keeps the low ones. -/
def ofPayload (type : UInt16) (payload : Nat) : Header :=
  ⟨UInt16.ofNat (headerLength + payload), type⟩

/-- The attribute's number. -/
def kind (h : Header) : UInt16 := h.type &&& kindMask

/-- The bytes of a header. -/
def encode (h : Header) : Bytes := Bytes.ofWord16 h.length ++ Bytes.ofWord16 h.type

@[simp] theorem length_encode (h : Header) : h.encode.length = headerLength := by
  simp [encode, headerLength]

/-- The header that `data` starts with. Bytes that are not `aligned` have none. -/
def decode? (data : Bytes) (aligned : Bool := true) : Option Header :=
  if aligned then do
    let length ← Bytes.word16? data
    let type ← Bytes.word16? (data.drop 2)
    return ⟨length, type⟩
  else none

theorem decode?_aligned (data : Bytes) :
    decode? data =
      (do
        let length ← Bytes.word16? data
        let type ← Bytes.word16? (data.drop 2)
        return ⟨length, type⟩) := rfl

theorem decode?_encode_append (h : Header) (rest : Bytes) :
    decode? (h.encode ++ rest) = some h := by
  have hd : (h.encode ++ rest).drop 2 = Bytes.ofWord16 h.type ++ rest := by
    rw [encode, List.append_assoc, List.drop_append_of_le_length (by simp),
      List.drop_of_length_le (by simp), List.nil_append]
  rw [decode?_aligned, hd, encode, List.append_assoc, Bytes.word16?_ofWord16_append,
    Bytes.word16?_ofWord16_append]
  rfl

/-- The header that `data` starts with, or the error that there is none. -/
def read (data : Bytes) (aligned : Bool := true) : Except Error Header :=
  match decode? data aligned with
  | some h => .ok h
  | none => .error (.truncated headerLength data.length)

end Header

/-! ## Taking one attribute -/

/-- What stands at the start of an attribute stream. -/
inductive Step
  /-- Nothing: the stream is over. -/
  | finished
  /-- Bytes that are no attribute. -/
  | malformed (cause : Error)
  /-- An attribute, and the stream behind it and its padding. -/
  | found (item : Attribute) (rest : Bytes)

/-- Takes the first attribute off a stream. The last attribute may lack its padding. -/
def step (data : Bytes) (aligned : Bool := true) : Step :=
  if data.isEmpty then .finished
  else
    match Header.decode? data aligned with
    | none => .malformed (.truncated headerLength data.length)
    | some h =>
      if h.length.toNat < headerLength || !Bytes.holds h.length.toNat data then
        .malformed (.invalidAttribute (.lengthOutOfBounds h.kind h.length.toNat data.length))
      else
        .found ⟨h.kind, (data.take h.length.toNat).drop headerLength⟩
          (data.drop (Bytes.align h.length.toNat))

theorem step_shorter {data : Bytes} {aligned : Bool} {a : Attribute} {rest : Bytes}
    (h : step data aligned = .found a rest) : rest.length < data.length := by
  unfold step at h
  split at h
  · simp at h
  · rename_i hne
    split at h
    · simp at h
    · split at h
      · simp at h
      · rename_i hd _ hlen
        simp only [Bool.or_eq_true, decide_eq_true_eq, Bool.not_eq_true', not_or] at hlen
        injection h with _ hrest
        have hpos : 0 < data.length := by
          rw [List.isEmpty_iff] at hne
          exact List.length_pos_iff.mpr hne
        have hal := Bytes.le_align hd.length.toNat
        have : headerLength = 4 := rfl
        rw [← hrest, List.length_drop]
        omega

/-! ## Reading a whole stream -/

/-- The attributes of a stream up to its first malformed one, and what is wrong with that one. -/
def split (data : Bytes) : List Attribute × Option Error :=
  match h : step data with
  | .finished => ([], none)
  | .malformed cause => ([], some cause)
  | .found a rest =>
    have := step_shorter h
    let (attributes, fault?) := split rest
    (a :: attributes, fault?)
termination_by data.length

/-- The attributes of a stream up to its first malformed one. -/
def lenient (data : Bytes) : List Attribute := (split data).1

/-! ## Cursors -/

/-- A position in an attribute stream, from which malformed bytes look like its end. -/
structure Cursor where
  /-- What has not been read yet. -/
  remaining : Bytes
  /-- Whether the position is at an even address. Attributes take multiples of four bytes, so it
  stays so. -/
  aligned : Bool

namespace Cursor

/-- The start of a buffer. -/
def start (buffer : Bytes) : Cursor := ⟨buffer, true⟩

/-- The position at an offset into a buffer. -/
def within (buffer : Bytes) (offset : Nat) : Cursor := ⟨buffer.drop offset, offset % 2 == 0⟩

/-- Whether no attribute can follow. -/
def isEmpty (c : Cursor) : Bool := !Bytes.holds headerLength c.remaining

/-- The next attribute and the position behind it. -/
def next? (c : Cursor) : Option (Attribute × Cursor) :=
  match step c.remaining c.aligned with
  | .found a rest => some (a, { c with remaining := rest })
  | _ => none

theorem next?_start (buffer : Bytes) :
    (start buffer).next? =
      match step buffer with
      | .found a rest => some (a, start rest)
      | _ => none := rfl

theorem next?_shorter {c c' : Cursor} {a : Attribute} (h : c.next? = some (a, c')) :
    c'.remaining.length < c.remaining.length := by
  unfold next? at h
  split at h
  · rename_i hs
    simp only [Option.some.injEq, Prod.mk.injEq] at h
    obtain ⟨-, rfl⟩ := h
    exact step_shorter hs
  · simp at h

/-- Inside a buffer a cursor is as aligned as at its start when the offset is even. -/
theorem within_of_even (buffer : Bytes) {offset : Nat} (h : offset % 2 = 0) :
    within buffer offset = start (buffer.drop offset) := by
  rw [within, h]
  rfl

/-- From an odd offset on a cursor finds nothing. -/
theorem next?_within_of_odd (buffer : Bytes) {offset : Nat} (h : offset % 2 = 1) :
    (within buffer offset).next? = none := by
  rw [within, h, next?, step]
  split <;> rename_i hstep
  · split at hstep <;> cases hstep
  · rfl

/-- Every attribute that follows, and the position where the walk stops. -/
def drain (c : Cursor) : List Attribute × Cursor :=
  match h : c.next? with
  | none => ([], c)
  | some (a, c') =>
    have := next?_shorter h
    let (attributes, last) := drain c'
    (a :: attributes, last)
termination_by c.remaining.length

end Cursor

/-- A position in an attribute stream that reports malformed bytes once. -/
structure StrictCursor where
  /-- What has not been read yet. -/
  remaining : Bytes
  /-- Whether the position is at an even address. -/
  aligned : Bool

namespace StrictCursor

/-- The start of a buffer. -/
def start (buffer : Bytes) : StrictCursor := ⟨buffer, true⟩

/-- The next attribute or the fault in its place, and the position behind it. Nothing follows a
fault. -/
def next? (c : StrictCursor) : Option (Except Error Attribute × StrictCursor) :=
  match step c.remaining c.aligned with
  | .finished => none
  | .malformed cause => some (.error cause, { c with remaining := [] })
  | .found a rest => some (.ok a, { c with remaining := rest })

theorem next?_start (buffer : Bytes) :
    (start buffer).next? =
      match step buffer with
      | .finished => none
      | .malformed cause => some (.error cause, start [])
      | .found a rest => some (.ok a, start rest) := rfl

theorem next?_shorter {c c' : StrictCursor} {item : Except Error Attribute}
    (h : c.next? = some (item, c')) : c'.remaining.length < c.remaining.length := by
  unfold next? at h
  split at h
  · simp at h
  · rename_i hs
    simp only [Option.some.injEq, Prod.mk.injEq] at h
    obtain ⟨-, rfl⟩ := h
    cases hc : c.remaining with
    | nil => simp [hc, step] at hs
    | cons b rest => simp
  · rename_i hs
    simp only [Option.some.injEq, Prod.mk.injEq] at h
    obtain ⟨-, rfl⟩ := h
    exact step_shorter hs

/-- Every item that follows. -/
def drain (c : StrictCursor) : List (Except Error Attribute) :=
  match h : c.next? with
  | none => []
  | some (item, c') =>
    have := next?_shorter h
    item :: drain c'
termination_by c.remaining.length

end StrictCursor

end Attribute

end SampleTap
