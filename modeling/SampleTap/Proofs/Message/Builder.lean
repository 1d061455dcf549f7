import Mathlib.Algebra.Ring.Nat
import SampleTap.Message.Builder
import SampleTap.Proofs.Attribute.Forest
import SampleTap.Proofs.Message

/-!
# Messages that were built

A builder and the two walks are inverse. What a message is to say is a `Message.Outline`: the fields
of its header, its command, and a forest of attributes. It is put into a builder by the builder's
own operations, attribute by attribute, and a nest is opened and closed around its children.

* `Forest.addTo_eq` says that this appends the forest's stream to an aligned body, whatever lengths
  were patched on the way.
* `MessageBuilder.padded_finish` says that an aligned builder finishes one padded message.
* `Outline.read_back` is the round trip, of one message and of messages back to back.
-/

namespace SampleTap

/-! ## Appending attributes -/

namespace MessageBuilder

/-- The builder with more bytes behind its body. -/
def extend (b : MessageBuilder) (data : Bytes) : MessageBuilder := { b with body := b.body ++ data }

theorem extend_nil (b : MessageBuilder) : b.extend [] = b := by
  rw [extend, List.append_nil]

theorem extend_extend (b : MessageBuilder) (data data' : Bytes) :
    (b.extend data).extend data' = b.extend (data ++ data') := by
  simp only [extend, List.append_assoc]

/-- The body of a builder stays aligned when aligned bytes are put behind it. -/
theorem aligned_extend {b : MessageBuilder} {data : Bytes} (hb : b.body.length % 4 = 0)
    (hdata : data.length % 4 = 0) : (b.extend data).body.length % 4 = 0 := by
  show (b.body ++ data).length % 4 = 0
  rw [List.length_append]
  omega

/-- Behind an aligned body, what is appended is padded by itself. -/
theorem append_of_aligned {b : MessageBuilder} (h : b.body.length % 4 = 0) (data : Bytes) :
    b.append data = b.extend (Bytes.pad data) := by
  rw [append, extend, Bytes.pad_append_of_aligned h]

/-- Behind an aligned body an attribute is its header and its payload, padded. -/
theorem attr_of_aligned {b : MessageBuilder} (h : b.body.length % 4 = 0) (type : UInt16)
    (payload : Bytes) :
    b.attr type payload =
      b.extend (Bytes.pad ((Attribute.Header.ofPayload type payload.length).encode ++ payload)) :=
  append_of_aligned h _

/-- Bytes in the middle are replaced by as many others. -/
theorem overwrite_append (front old patch back : Bytes) (h : patch.length = old.length) :
    overwrite (front ++ (old ++ back)) front.length patch = front ++ (patch ++ back) := by
  have hback : (front ++ (old ++ back)).drop (front.length + patch.length) = back := by
    rw [h, ← List.drop_drop, List.drop_left, List.drop_left]
  rw [overwrite, List.take_left, hback, List.append_assoc]

/-- A nest that is closed behind aligned bytes is an attribute with those for a payload. -/
theorem closeNest_openNest {b : MessageBuilder} (h : b.body.length % 4 = 0) (type : UInt16)
    {inner : Bytes} (hinner : inner.length % 4 = 0) :
    ((b.openNest type).1.extend inner).closeNest (b.openNest type).2 =
      b.extend ((Attribute.Header.ofPayload (type ||| Attribute.nestedFlag) inner.length).encode ++
        inner) := by
  let flagged := type ||| Attribute.nestedFlag
  let length := UInt16.ofNat (Attribute.headerLength + inner.length)
  let opened := Bytes.ofWord16 (UInt16.ofNat (Attribute.headerLength + 0))
  let back := Bytes.ofWord16 flagged ++ inner
  have hbody : ((b.openNest type).1.extend inner).body = b.body ++ (opened ++ back) := by
    show b.body ++ (opened ++ Bytes.ofWord16 flagged) ++ inner = _
    rw [List.append_assoc, List.append_assoc]
  have hdistance : (b.body ++ (opened ++ back)).length - b.body.length =
      Attribute.headerLength + inner.length := by
    have hopened : opened.length = 2 := Bytes.length_ofWord16 _
    have hback : back.length = 2 + inner.length := by
      rw [List.length_append, Bytes.length_ofWord16]
    have hheader : Attribute.headerLength = 4 := rfl
    rw [List.length_append, List.length_append]
    omega
  have hpatched : overwrite (b.body ++ (opened ++ back)) b.body.length (Bytes.ofWord16 length) =
      b.body ++ (Bytes.ofWord16 length ++ back) := overwrite_append _ _ _ _ rfl
  -- Everything up to here is aligned, so closing the nest pads nothing.
  have haligned : (b.body ++ (Bytes.ofWord16 length ++ back)).length % 4 = 0 := by
    rw [List.length_append, List.length_append, List.length_append, Bytes.length_ofWord16,
      Bytes.length_ofWord16]
    omega
  have hpad : Bytes.pad (overwrite ((b.openNest type).1.extend inner).body b.body.length
      (Bytes.ofWord16 (UInt16.ofNat (((b.openNest type).1.extend inner).body.length -
        b.body.length)))) = b.body ++ (Bytes.ofWord16 length ++ back) := by
    rw [hbody, hdistance, hpatched, Bytes.pad_of_aligned haligned]
  have hheader : (Attribute.Header.ofPayload flagged inner.length).encode ++ inner =
      Bytes.ofWord16 length ++ back := List.append_assoc _ _ _
  rw [closeNest, extend, hheader]
  exact congrArg (fun body => { b with body := body }) hpad

/-- The length of a message that fits its field counts every byte. -/
theorem header_length {b : MessageBuilder} (h : Message.headerLength + b.body.length < 2 ^ 32) :
    b.header.length.toNat = Message.headerLength + b.body.length := by
  show (UInt32.ofNat (Message.headerLength + b.body.length)).toNat = _
  exact UInt32.toNat_ofNat_of_lt' h

/-- The finished bytes of an aligned builder are one message, and another can follow. -/
theorem padded_finish {b : MessageBuilder} (haligned : b.body.length % 4 = 0)
    (hlength : Message.headerLength + b.body.length < 2 ^ 32) :
    Message.Padded b.finish ⟨b.header, b.body⟩ :=
  Message.padded_encode (header_length hlength) haligned

end MessageBuilder

namespace Attribute

/-- Appends an attribute that holds no other attributes, by the operation for its payload. -/
def Content.addTo (b : MessageBuilder) (type : UInt16) : Content → MessageBuilder
  | bytes payload => b.attr type payload
  | word16 value => b.attrU16 type value
  | word32 value => b.attrU32 type value
  | word64 value => b.attrU64 type value
  | text value => b.attrText type value

/-- Every content is added as its payload, a nest too. -/
theorem Content.addTo_eq (b : MessageBuilder) (type : UInt16) (content : Content) :
    content.addTo b type = b.attr type content.payload := by
  cases content <;> rfl

/-- Appends the attributes of a forest in order. One that holds others is opened, they are
appended, and it is closed. -/
def Forest.addTo (b : MessageBuilder) : Forest → MessageBuilder
  | nil => b
  | leaf type content rest => rest.addTo (content.addTo b type)
  | nest type children rest =>
    rest.addTo ((children.addTo (b.openNest type).1).closeNest (b.openNest type).2)

/-- Appending a forest to an aligned body appends its stream. -/
theorem Forest.addTo_eq (f : Forest) {b : MessageBuilder} (h : b.body.length % 4 = 0) :
    f.addTo b = b.extend f.encode := by
  induction f generalizing b with
  | nil => exact b.extend_nil.symm
  | leaf type content rest ih =>
    have hpadded := Bytes.length_pad_mod_four
      ((Header.ofPayload type content.payload.length).encode ++ content.payload)
    rw [addTo, Content.addTo_eq, MessageBuilder.attr_of_aligned h,
      ih (MessageBuilder.aligned_extend h hpadded), MessageBuilder.extend_extend, encode]
  | nest type children rest ihchildren ihrest =>
    have hchildren := length_encode_mod_four children
    have hheader : headerLength = 4 := rfl
    have hopened : (b.openNest type).1.body.length % 4 = 0 := by
      apply MessageBuilder.aligned_extend h
      rw [Header.length_encode, hheader]
    have hnest : ((Header.ofPayload (type ||| nestedFlag) children.encode.length).encode ++
        children.encode).length % 4 = 0 := by
      rw [List.length_append, Header.length_encode]
      omega
    rw [addTo, ihchildren hopened, MessageBuilder.closeNest_openNest h type hchildren,
      ihrest (MessageBuilder.aligned_extend h hnest), MessageBuilder.extend_extend, encode]

end Attribute

/-! ## Whole messages -/

namespace Message

/-- What a message is to say. -/
structure Outline where
  type : UInt16
  flags : UInt16
  seq : UInt32
  sender : UInt32
  command : CommandHeader
  attributes : Attribute.Forest
deriving DecidableEq, Repr

namespace Outline

/-- The builder that was given an outline, piece by piece. -/
def builder (o : Outline) : MessageBuilder :=
  let start : MessageBuilder :=
    { type := o.type, flags := o.flags, seq := o.seq, sender := o.sender }
  o.attributes.addTo (start.appendCommand o.command)

/-- The finished bytes of an outline. -/
def encode (o : Outline) : Bytes := o.builder.finish

/-- Whether every length fits its field: those of the attributes, and that of the message. -/
structure Fits (o : Outline) : Prop where
  attributes : o.attributes.Fits
  length : o.encode.length < 2 ^ 32

/-- Whether a message says what an outline is to say, and counts the outline's bytes. -/
structure IsSaidBy (o : Outline) (m : Message) : Prop where
  type : m.header.type = o.type
  flags : m.header.flags = o.flags
  seq : m.header.seq = o.seq
  sender : m.header.sender = o.sender
  length : m.header.length.toNat = o.encode.length
  payload : ∃ attributes, CommandHeader.split? m.payload = some (o.command, attributes) ∧
    o.attributes.IsReadFrom attributes

/-- An outline is built to the encoding of its attributes behind its command. -/
theorem builder_eq (o : Outline) :
    o.builder = { type := o.type, flags := o.flags, seq := o.seq, sender := o.sender
                  body := o.command.encode ++ o.attributes.encode } := by
  let start : MessageBuilder :=
    { type := o.type, flags := o.flags, seq := o.seq, sender := o.sender }
  have hcommand : o.command.encode.length % 4 = 0 := by
    rw [CommandHeader.length_encode]
    rfl
  have hstart : start.appendCommand o.command = start.extend o.command.encode := by
    rw [MessageBuilder.appendCommand, MessageBuilder.append_of_aligned rfl,
      Bytes.pad_of_aligned hcommand]
  have haligned : (start.extend o.command.encode).body.length % 4 = 0 :=
    MessageBuilder.aligned_extend rfl hcommand
  show o.attributes.addTo (start.appendCommand o.command) = _
  rw [hstart, Attribute.Forest.addTo_eq _ haligned, MessageBuilder.extend_extend]
  rfl

/-- The message that the finished bytes of an outline are. -/
def message (o : Outline) : Message := ⟨o.builder.header, o.builder.body⟩

theorem length_encode (o : Outline) : o.encode.length = headerLength + o.builder.body.length := by
  rw [encode, MessageBuilder.finish, List.length_append, Header.length_encode]

/-- A message is its two headers and the encoding of its attributes. -/
theorem encode_eq (o : Outline) :
    o.encode = o.builder.header.encode ++ o.command.encode ++ o.attributes.encode := by
  rw [encode, MessageBuilder.finish, builder_eq, List.append_assoc]

theorem length_headers (o : Outline) :
    (o.builder.header.encode ++ o.command.encode).length = 20 := by
  rw [List.length_append, Header.length_encode, CommandHeader.length_encode]
  rfl

theorem Fits.isSaidBy {o : Outline} (h : o.Fits) : o.IsSaidBy o.message where
  type := by rw [message, builder_eq]; rfl
  flags := by rw [message, builder_eq]; rfl
  seq := by rw [message, builder_eq]; rfl
  sender := by rw [message, builder_eq]; rfl
  length := by
    have hlength : headerLength + o.builder.body.length < 2 ^ 32 := length_encode o ▸ h.length
    rw [length_encode]
    exact MessageBuilder.header_length hlength
  payload := by
    refine ⟨o.attributes.encode, ?_, Attribute.Forest.isReadFrom_encode h.attributes⟩
    rw [message, builder_eq]
    exact CommandHeader.split?_encode_append o.command o.attributes.encode

/-- The finished bytes of an outline are one message, and another can follow. -/
theorem Fits.padded {o : Outline} (h : o.Fits) : Padded o.encode o.message := by
  have haligned : o.builder.body.length % 4 = 0 := by
    have hattributes := Attribute.Forest.length_encode_mod_four o.attributes
    have hcommand : o.command.encode.length = 4 := CommandHeader.length_encode o.command
    rw [builder_eq, List.length_append]
    omega
  exact MessageBuilder.padded_finish haligned (length_encode o ▸ h.length)

/-- An outline that fits is read back as its message alone. -/
theorem Fits.drain_encode {o : Outline} (h : o.Fits) :
    (Cursor.mk o.encode).drain = [.ok o.message] := by
  have hdrain := h.padded.drain_append []
  rwa [List.append_nil, Cursor.drain_nil] at hdrain

/-- Outlines whose lengths fit are read back: one by itself is one message, which says what it was
to say, and the bytes of several in a row are the messages that each is by itself. -/
theorem read_back :
    (∀ o : Outline, o.Fits → ∃ m, (Cursor.mk o.encode).drain = [.ok m] ∧ o.IsSaidBy m) ∧
    (∀ outlines : List Outline, (∀ o ∈ outlines, o.Fits) →
      (Cursor.mk (outlines.flatMap encode)).drain =
        outlines.flatMap fun o => (Cursor.mk o.encode).drain) := by
  refine ⟨fun o h => ⟨o.message, h.drain_encode, h.isSaidBy⟩, ?_⟩
  intro outlines hfits
  induction outlines with
  | nil => exact Cursor.drain_nil
  | cons o rest ih =>
    have ho := hfits o List.mem_cons_self
    have hrest := ih fun o' ho' => hfits o' (List.mem_cons_of_mem o ho')
    rw [List.flatMap_cons, List.flatMap_cons, ho.padded.drain_append, hrest, ho.drain_encode]
    rfl

/-- A request with a nest inside a nest, of which the inner one is empty, and a reply that says
nothing but its command. -/
def nested : Outline where
  type := 16
  flags := 5
  seq := 7
  sender := 4242
  command := ⟨3, 1, 0⟩
  attributes := .leaf 2 (.text "psample") <| .nest 7
    (.nest 0xc001 .nil <| .leaf 0x4002 (.word16 9) .nil) <| .leaf 3 (.bytes [1, 2, 3]) .nil

theorem read_back_nested :
    let empty : Outline := ⟨29, 0, 0, 0, ⟨2, 1, 0⟩, .nil⟩
    nested.Fits ∧ empty.Fits ∧
      (∃ m, (Cursor.mk nested.encode).drain = [.ok m] ∧ nested.IsSaidBy m) ∧
      (Cursor.mk (nested.encode ++ empty.encode)).drain =
        (Cursor.mk nested.encode).drain ++ (Cursor.mk empty.encode).drain := by
  intro empty
  obtain ⟨hone, hmany⟩ := read_back
  have hnested : nested.Fits := ⟨by decide +kernel, by decide +kernel⟩
  have hempty : empty.Fits := ⟨trivial, by decide +kernel⟩
  have hboth := hmany [nested, empty] (by simp [hnested, hempty])
  refine ⟨hnested, hempty, hone nested hnested, ?_⟩
  simpa using hboth

end Outline

end Message
end SampleTap
