import Mathlib.Algebra.Ring.Nat
import SampleTap.Proofs.Attribute.Framing

/-!
# Forests of attributes

An attribute carries a payload of its own, or attributes in turn. `Attribute.Forest` is a list of
such attributes, each with its own list: it is what a message is to say, apart from any bytes.

* `Forest.encode` is the forest's stream: every length counts what the attribute holds, and every
  attribute is padded.
* `Forest.IsReadFrom` says that the strict walk over a stream, taken again inside each attribute
  that holds others, meets the forest and nothing else.
* `Forest.isReadFrom_encode` says so of the forest's own stream, as long as each length fits its
  field.
* `Forest.attributes` are the attributes of the outermost level, and `Forest.lenient_encode` says
  that a walk over the stream meets just these.
-/

namespace SampleTap
namespace Attribute

/-! ## Forests -/

/-- The payload of an attribute that holds no other attributes. -/
inductive Content
  | bytes (payload : Bytes)
  | word16 (value : UInt16)
  | word32 (value : UInt32)
  | word64 (value : UInt64)
  | text (value : String)
deriving DecidableEq, Repr

/-- The bytes of a payload; a text is ended by the byte zero. -/
def Content.payload : Content → Bytes
  | bytes payload => payload
  | word16 value => Bytes.ofWord16 value
  | word32 value => Bytes.ofWord32 value
  | word64 value => Bytes.ofWord64 value
  | text value => Bytes.ofText value ++ [0]

/-- Attributes in order, by their types. -/
inductive Forest
  | nil
  /-- An attribute with a payload of its own, and the attributes behind it. -/
  | leaf (type : UInt16) (content : Content) (rest : Forest)
  /-- An attribute that holds others, and the attributes behind it. -/
  | nest (type : UInt16) (children rest : Forest)
deriving DecidableEq, Repr

namespace Forest

/-- The stream of a forest. -/
def encode : Forest → Bytes
  | nil => []
  | leaf type content rest =>
    Bytes.pad ((Header.ofPayload type content.payload.length).encode ++ content.payload) ++
      rest.encode
  | nest type children rest =>
    (Header.ofPayload (type ||| nestedFlag) children.encode.length).encode ++ children.encode ++
      rest.encode

/-- The greatest length that an attribute's header can tell. -/
def maxLength : Nat := 65535

/-- Whether the length of each attribute, header included, fits its field. -/
def Fits : Forest → Prop
  | nil => True
  | leaf _ content rest => headerLength + content.payload.length ≤ maxLength ∧ rest.Fits
  | nest _ children rest =>
    headerLength + children.encode.length ≤ maxLength ∧ children.Fits ∧ rest.Fits

instance decidableFits : (f : Forest) → Decidable f.Fits
  | nil => inferInstanceAs (Decidable True)
  | leaf _ content rest =>
    have := decidableFits rest
    inferInstanceAs
      (Decidable (headerLength + content.payload.length ≤ maxLength ∧ rest.Fits))
  | nest _ children rest =>
    have := decidableFits children
    have := decidableFits rest
    inferInstanceAs
      (Decidable (headerLength + children.encode.length ≤ maxLength ∧ children.Fits ∧ rest.Fits))

/-- The attribute number that a type stands for: its fourteen low bits. -/
def number (type : UInt16) : Nat := type.toNat % 2 ^ 14

/-- Whether the strict walk over a stream meets the attributes of a forest in order, without a
fault and with nothing behind them, and the same inside each attribute that holds others. -/
def IsReadFrom : Forest → Bytes → Prop
  | nil, data => (StrictCursor.start data).next? = none
  | leaf type content rest, data =>
    ∃ a behind, (StrictCursor.start data).next? = some (.ok a, behind) ∧
      a.kind.toNat = number type ∧ a.payload = content.payload ∧
      rest.IsReadFrom behind.remaining
  | nest type children rest, data =>
    ∃ a behind, (StrictCursor.start data).next? = some (.ok a, behind) ∧
      a.kind.toNat = number type ∧ children.IsReadFrom a.payload ∧
      rest.IsReadFrom behind.remaining

/-! ## Streams of forests -/

/-- The stream of a forest is aligned, so what is appended to it starts an attribute. -/
theorem length_encode_mod_four (f : Forest) : f.encode.length % 4 = 0 := by
  induction f with
  | nil => rfl
  | leaf type content rest ih =>
    have hpad := Bytes.length_pad_mod_four
      ((Header.ofPayload type content.payload.length).encode ++ content.payload)
    rw [encode, List.length_append]
    omega
  | nest type children rest ihchildren ihrest =>
    have hheader : headerLength = 4 := rfl
    rw [encode, List.length_append, List.length_append, Header.length_encode]
    omega

end Forest

/-! ## Reading one attribute back -/

theorem Header.length_ofPayload (type : UInt16) {payload : Nat}
    (h : headerLength + payload ≤ Forest.maxLength) :
    (ofPayload type payload).length.toNat = headerLength + payload := by
  have hlt : headerLength + payload < 2 ^ 16 := by
    have hmax : Forest.maxLength = 65535 := rfl
    omega
  rw [ofPayload, UInt16.toNat_ofNat_of_lt' hlt]

theorem Header.kind_ofPayload (type : UInt16) (payload : Nat) :
    (ofPayload type payload).kind.toNat = Forest.number type := by
  rw [kind, ofPayload, UInt16.toNat_and]
  exact Nat.and_two_pow_sub_one_eq_mod type.toNat 14

/-- The flag of an attribute that holds others is no part of its number. -/
theorem Header.kind_ofPayload_nested (type : UInt16) (payload : Nat) :
    (ofPayload (type ||| nestedFlag) payload).kind.toNat = Forest.number type := by
  have hflag : nestedFlag.toNat &&& kindMask.toNat = 0 := rfl
  rw [kind, ofPayload, UInt16.toNat_and, UInt16.toNat_or, Nat.and_or_distrib_right, hflag,
    Nat.or_zero]
  exact Nat.and_two_pow_sub_one_eq_mod type.toNat 14

/-- A header that counts itself and a payload is read back with the payload, and the walk goes on
behind the padding. -/
theorem next?_pad_append {h : Header} {payload : Bytes}
    (hlength : h.length.toNat = headerLength + payload.length) (tail : Bytes) :
    (StrictCursor.start (Bytes.pad (h.encode ++ payload) ++ tail)).next? =
      some (.ok ⟨h.kind, payload⟩, .start tail) := by
  have hwhole : (h.encode ++ payload).length = h.length.toNat := by
    rw [List.length_append, Header.length_encode, hlength]
  have hpadded : (Bytes.pad (h.encode ++ payload)).length = Bytes.align h.length.toNat := by
    rw [Bytes.length_pad, hwhole]
  have hlong : h.length.toNat ≤ (Bytes.pad (h.encode ++ payload)).length := by
    rw [hpadded]
    exact Bytes.le_align h.length.toNat
  -- The attribute's own bytes are the beginning of what is padded.
  have htake : (Bytes.pad (h.encode ++ payload) ++ tail).take h.length.toNat =
      h.encode ++ payload := by
    rw [List.take_append_of_le_length hlong, Bytes.pad, ← hwhole, List.take_left]
  have hstep : step (Bytes.pad (h.encode ++ payload) ++ tail) = .found ⟨h.kind, payload⟩ tail := by
    refine step_eq_found_iff.mpr ⟨h, ?_, ?_, ?_, ?_, ?_⟩
    · rw [Bytes.pad, List.append_assoc, List.append_assoc]
      exact Header.decode?_encode_append h _
    · omega
    · rw [List.length_append]
      omega
    · rw [htake, List.drop_left' (Header.length_encode h)]
    · rw [← hpadded, List.drop_left]
  simp only [StrictCursor.next?_start, hstep]

/-! ## Reading a forest back -/

namespace Forest

/-- A forest whose lengths fit their fields is read from its stream. -/
theorem isReadFrom_encode {f : Forest} (h : f.Fits) : f.IsReadFrom f.encode := by
  induction f with
  | nil => rfl
  | leaf type content rest ih =>
    obtain ⟨hlength, hrest⟩ := h
    have hnext := next?_pad_append (Header.length_ofPayload type hlength) rest.encode
    exact ⟨_, _, hnext, Header.kind_ofPayload type _, rfl, ih hrest⟩
  | nest type children rest ihchildren ihrest =>
    obtain ⟨hlength, hchildren, hrest⟩ := h
    let header := Header.ofPayload (type ||| nestedFlag) children.encode.length
    -- A nest is aligned as it is, since everything inside it is padded.
    have haligned : (header.encode ++ children.encode).length % 4 = 0 := by
      have hheader : headerLength = 4 := rfl
      have hinner := length_encode_mod_four children
      rw [List.length_append, Header.length_encode]
      omega
    have hnext := next?_pad_append
      (Header.length_ofPayload (type ||| nestedFlag) hlength) rest.encode
    rw [Bytes.pad_of_aligned haligned] at hnext
    exact ⟨_, _, hnext, Header.kind_ofPayload_nested type _, ihchildren hchildren, ihrest hrest⟩

/-! ## The outermost level -/

/-- The attributes of a forest's outermost level. -/
def attributes : Forest → List Attribute
  | nil => []
  | leaf type content rest => ⟨type &&& kindMask, content.payload⟩ :: rest.attributes
  | nest type children rest => ⟨type &&& kindMask, children.encode⟩ :: rest.attributes

/-- The stream of a forest whose lengths fit is its attributes, each with its padding. -/
theorem packed_encode {f : Forest} (h : f.Fits) : Packed f.attributes f.encode := by
  induction f with
  | nil => exact .nil
  | leaf type content rest ih =>
    obtain ⟨hlength, hrest⟩ := h
    have hwritten := Written.intro (Header.length_ofPayload type hlength)
    have hextent := hwritten.length
    refine .cons hwritten ?_ (ih hrest)
    rw [List.length_replicate, hextent]
    rfl
  | nest type children rest _ ih =>
    obtain ⟨hlength, -, hrest⟩ := h
    have hkind : (Header.ofPayload (type ||| nestedFlag) children.encode.length).kind =
        type &&& kindMask := by
      rw [← UInt16.toNat_inj, Header.kind_ofPayload_nested]
      exact (Header.kind_ofPayload type 0).symm
    have hwritten := Written.intro (Header.length_ofPayload (type ||| nestedFlag) hlength)
    rw [hkind] at hwritten
    -- What is nested is aligned, so no padding follows it.
    have hgap : gap ⟨type &&& kindMask, children.encode⟩ = 0 := by
      have haligned := length_encode_mod_four children
      show Bytes.align (headerLength + children.encode.length) -
        (headerLength + children.encode.length) = 0
      unfold Bytes.align headerLength
      omega
    rw [encode, ← List.append_nil ((Header.ofPayload _ _).encode ++ children.encode)]
    exact .cons hwritten hgap.symm (ih hrest)

/-- A walk over the stream of a forest meets the attributes of the outermost level. -/
theorem lenient_encode {f : Forest} (h : f.Fits) : lenient f.encode = f.attributes := by
  rw [lenient, (Framed.whole (packed_encode h)).split_eq]

end Forest
end Attribute
end SampleTap
