import SampleTap.Proofs.Cursor
import SampleTap.Proofs.Message

/-!
# The framing of datagrams

The grammar of datagrams, said with the bytes of the messages and without a reader: messages in
order, each with its padding (`Message.Packed`), and behind them too few bytes for a header, or a
last message that lacks bytes of its padding (`Message.Framed`). A datagram that is not of this form
has a header with a length out of bounds behind some messages (`Message.Broken`).

A cursor over a datagram gives exactly the messages of a framed one, and of a broken one the
messages in front of the bad header and then one error (`gives_iff_framed`).
-/

namespace SampleTap
namespace Message

/-! ## The grammar -/

/-- The bytes of a message, without padding. -/
def encode (m : Message) : Bytes := m.header.encode ++ m.payload

/-- Whether the length in a message's header counts the header and the payload. -/
def Counted (m : Message) : Prop := m.header.length.toNat = headerLength + m.payload.length

instance (m : Message) : Decidable m.Counted := inferInstanceAs (Decidable (_ = _))

/-- The number of bytes from the end of a message to the next multiple of four. -/
def gap (m : Message) : Nat := Bytes.align m.encode.length - m.encode.length

/-- Whether bytes are messages in order, each followed by its padding, which may hold anything. -/
inductive Packed : List Message → Bytes → Prop
  | nil : Packed [] []
  | cons {m : Message} {messages : List Message} {padding rest : Bytes} : m.Counted →
      padding.length = m.gap → Packed messages rest →
      Packed (m :: messages) (m.encode ++ padding ++ rest)

/-- Whether bytes are messages as a datagram frames them. -/
inductive Framed : List Message → Bytes → Prop
  /-- Behind the messages are too few bytes for a header. -/
  | trailing {messages : List Message} {front back : Bytes} : Packed messages front →
      back.length < headerLength → Framed messages (front ++ back)
  /-- The last message lacks bytes of its padding, and nothing follows. -/
  | cut {messages : List Message} {front padding : Bytes} {m : Message} : Packed messages front →
      m.Counted → padding.length < m.gap →
      Framed (messages ++ [m]) (front ++ (m.encode ++ padding))

/-- Whether bytes are messages and then a header whose length is below its own or above what is
left, and which error tells so. -/
inductive Broken : List Message → Error → Bytes → Prop
  | header {messages : List Message} {front behind : Bytes} {h : Header} : Packed messages front →
      h.length.toNat < headerLength ∨ (h.encode ++ behind).length < h.length.toNat →
      Broken messages
        (.invalidMessage (.lengthOutOfBounds h.length.toNat (h.encode ++ behind).length))
        (front ++ (h.encode ++ behind))

/-! ## One step of the walk, in the grammar's terms -/

theorem length_encode (m : Message) : m.encode.length = headerLength + m.payload.length := by
  rw [encode, List.length_append, Header.length_encode]

theorem Counted.length {m : Message} (h : m.Counted) :
    m.header.length.toNat = m.encode.length := by
  rw [length_encode]
  exact h

theorem length_encode_add_gap (m : Message) :
    m.encode.length + m.gap = Bytes.align m.encode.length := by
  have := Bytes.le_align m.encode.length
  rw [gap]
  omega

/-- A datagram starts with a message exactly when it starts with the bytes of a message that counts
itself; what is behind them, without the padding, is left. -/
theorem step_eq_found_iff_encode {data rest : Bytes} {m : Message} :
    step data = .found m rest ↔
      m.Counted ∧ ∃ behind, data = m.encode ++ behind ∧ rest = behind.drop m.gap := by
  rw [step_eq_found_iff]
  constructor
  · rintro ⟨hdecode, hlow, hhigh, hpayload, rfl⟩
    obtain ⟨behind, rfl⟩ := Header.decode?_eq_some_iff.mp hdecode
    have hheader := Header.length_encode m.header
    have hcounted : m.Counted := by
      rw [Counted, hpayload, List.length_drop, List.length_take]
      omega
    -- The payload is what the header counts of the bytes behind it.
    have htake : (m.header.encode ++ behind).take m.header.length.toNat =
        m.header.encode ++ behind.take (m.header.length.toNat - headerLength) := by
      rw [List.take_append, hheader, List.take_of_length_le (hheader ▸ hlow)]
    rw [htake, ← hheader, List.drop_left, hheader] at hpayload
    rw [← hpayload, ← encode] at htake
    refine ⟨hcounted, (m.header.encode ++ behind).drop m.header.length.toNat, ?_, ?_⟩
    · rw [← htake, List.take_append_drop]
    · rw [List.drop_drop, hcounted.length, length_encode_add_gap]
  · rintro ⟨hcounted, behind, rfl, rfl⟩
    refine ⟨?_, ?_, ?_, ?_, ?_⟩
    · exact Header.decode?_eq_some_iff.mpr ⟨m.payload ++ behind, List.append_assoc ..⟩
    · rw [hcounted]
      exact Nat.le_add_right ..
    · rw [hcounted.length, List.length_append]
      exact Nat.le_add_right ..
    · rw [hcounted.length, List.take_left, encode, ← Header.length_encode m.header, List.drop_left]
    · rw [hcounted.length, ← length_encode_add_gap, ← List.drop_drop, List.drop_left]

/-- A message that counts itself can be followed by others when its padding is in place. -/
theorem Counted.padded {m : Message} (h : m.Counted) {padding : Bytes}
    (hpadding : padding.length = m.gap) : Padded (m.encode ++ padding) m where
  step := by
    refine step_eq_found_iff_encode.mpr ⟨h, padding, rfl, ?_⟩
    rw [List.drop_of_length_le (Nat.le_of_eq hpadding)]
  length := by
    rw [List.length_append, hpadding, length_encode_add_gap, h.length]

theorem step_eq_finished_iff {data : Bytes} :
    step data = .finished ↔ data.length < headerLength := by
  rw [← Header.decode?_eq_none_iff, step]
  cases Header.decode? data with
  | none => simp
  | some h =>
    dsimp only
    split <;> simp

/-- A datagram starts with a malformed message exactly when it starts with a header whose length is
out of bounds. -/
theorem step_eq_malformed_iff {data : Bytes} {cause : Error} :
    step data = .malformed cause ↔
      ∃ h behind, data = Header.encode h ++ behind ∧
        (h.length.toNat < headerLength ∨ data.length < h.length.toNat) ∧
        cause = .invalidMessage (.lengthOutOfBounds h.length.toNat data.length) := by
  constructor
  · intro hstep
    unfold step at hstep
    split at hstep
    · simp at hstep
    · rename_i h hdecode
      split at hstep
      · rename_i hbad
        obtain ⟨behind, hdata⟩ := Header.decode?_eq_some_iff.mp hdecode
        simp only [Bool.or_eq_true, decide_eq_true_eq, Bool.not_eq_true',
          Bytes.holds_eq_false_iff] at hbad
        exact ⟨h, behind, hdata, hbad, (Step.malformed.inj hstep).symm⟩
      · simp at hstep
  · rintro ⟨h, behind, hdata, hbad, rfl⟩
    have hdecode := Header.decode?_eq_some_iff.mpr ⟨behind, hdata⟩
    have hbad : (decide (h.length.toNat < headerLength) ||
        !Bytes.holds h.length.toNat data) = true := by
      simpa only [Bool.or_eq_true, decide_eq_true_eq, Bool.not_eq_true',
        Bytes.holds_eq_false_iff] using hbad
    rw [step, hdecode]
    exact if_pos hbad

/-! ## What a cursor gives -/

open SampleTap.Cursor (Gives gives_nil_iff gives_cons_iff)

/-- A cursor gives messages with their padding, and then what it gives behind them. -/
theorem Packed.gives_append {messages : List Message} {front : Bytes} (h : Packed messages front)
    {back : Bytes} {items : List (Except Error Message)} (hback : Gives Cursor.next? ⟨back⟩ items) :
    Gives Cursor.next? ⟨front ++ back⟩ (messages.map .ok ++ items) := by
  induction h with
  | nil => exact hback
  | cons hcounted hpadding _ ih =>
    rw [List.map_cons, List.cons_append, gives_cons_iff]
    refine ⟨_, ?_, ih⟩
    rw [List.append_assoc, Cursor.next?, (hcounted.padded hpadding).step_append]

/-- Messages with their padding are read one by one, and then what is behind them. -/
theorem Packed.split_append {messages : List Message} {front : Bytes} (h : Packed messages front)
    (back : Bytes) : split (front ++ back) = (messages ++ (split back).1, (split back).2) := by
  induction h with
  | nil => rfl
  | cons hcounted hpadding _ ih =>
    rw [List.append_assoc, (hcounted.padded hpadding).split_append, ih]
    rfl

/-- Of a framed datagram a cursor gives the messages. -/
theorem Framed.gives {messages : List Message} {data : Bytes} (h : Framed messages data) :
    Gives Cursor.next? ⟨data⟩ (messages.map .ok) := by
  cases h with
  | @trailing _ front back hpacked hshort =>
    have hend : Gives Cursor.next? ⟨back⟩ [] := by
      rw [gives_nil_iff, Cursor.next?, step_eq_finished_iff.mpr hshort]
    simpa using hpacked.gives_append hend
  | @cut messages front padding m hpacked hcounted hpadding =>
    have hlast : step (m.encode ++ padding) = .found m [] := by
      refine step_eq_found_iff_encode.mpr ⟨hcounted, padding, rfl, ?_⟩
      rw [List.drop_of_length_le (Nat.le_of_lt hpadding)]
    have hend : Gives Cursor.next? ⟨m.encode ++ padding⟩ [.ok m] := by
      refine gives_cons_iff.mpr ⟨⟨[]⟩, ?_, gives_nil_iff.mpr rfl⟩
      rw [Cursor.next?, hlast]
    rw [List.map_append]
    exact hpacked.gives_append hend

/-- Of a broken datagram a cursor gives the messages in front of the bad header and one error. -/
theorem Broken.gives {messages : List Message} {fault : Error} {data : Bytes}
    (h : Broken messages fault data) :
    Gives Cursor.next? ⟨data⟩ (messages.map .ok ++ [.error fault]) := by
  cases h with
  | @header front behind h hpacked hbad =>
    refine hpacked.gives_append (gives_cons_iff.mpr ⟨⟨[]⟩, ?_, gives_nil_iff.mpr rfl⟩)
    rw [Cursor.next?, step_eq_malformed_iff.mpr ⟨h, behind, rfl, hbad, rfl⟩]

/-! ## Every datagram is framed or broken -/

theorem Framed.cons {m : Message} {messages : List Message} {padding rest : Bytes}
    (hcounted : m.Counted) (hpadding : padding.length = m.gap) (h : Framed messages rest) :
    Framed (m :: messages) (m.encode ++ padding ++ rest) := by
  cases h with
  | trailing hpacked hshort =>
    rw [← List.append_assoc]
    exact .trailing (.cons hcounted hpadding hpacked) hshort
  | cut hpacked hlast hcut =>
    rw [← List.append_assoc, ← List.cons_append]
    exact .cut (.cons hcounted hpadding hpacked) hlast hcut

theorem Broken.cons {m : Message} {messages : List Message} {fault : Error} {padding rest : Bytes}
    (hcounted : m.Counted) (hpadding : padding.length = m.gap) (h : Broken messages fault rest) :
    Broken (m :: messages) fault (m.encode ++ padding ++ rest) := by
  cases h with
  | header hpacked hbad =>
    rw [← List.append_assoc]
    exact .header (.cons hcounted hpadding hpacked) hbad

/-- Every byte string is messages to its end or up to a fault. -/
theorem framed_or_broken (data : Bytes) :
    (∃ messages, Framed messages data) ∨ ∃ messages fault, Broken messages fault data := by
  induction data using split.induct with
  | case1 data hstep =>
    exact .inl ⟨[], .trailing .nil (step_eq_finished_iff.mp hstep)⟩
  | case2 data cause hstep =>
    obtain ⟨h, behind, rfl, hbad, rfl⟩ := step_eq_malformed_iff.mp hstep
    exact .inr ⟨[], _, .header .nil hbad⟩
  | case3 data m rest hstep _ _ _ _ ih =>
    obtain ⟨hcounted, behind, rfl, rfl⟩ := step_eq_found_iff_encode.mp hstep
    by_cases hpadded : m.gap ≤ behind.length
    -- With its padding in place the message stands in front of what the rest is.
    · have hpadding : (behind.take m.gap).length = m.gap := List.length_take_of_le hpadded
      have hsplit : m.encode ++ behind = m.encode ++ behind.take m.gap ++ behind.drop m.gap := by
        rw [List.append_assoc, List.take_append_drop]
      rw [hsplit]
      rcases ih with ⟨messages, hframed⟩ | ⟨messages, fault, hbroken⟩
      · exact .inl ⟨_, hframed.cons hcounted hpadding⟩
      · exact .inr ⟨_, fault, hbroken.cons hcounted hpadding⟩
    · exact .inl ⟨[m], .cut .nil hcounted (Nat.lt_of_not_le hpadded)⟩

/-! ## Both directions -/

/-- Messages alone are not messages and an error. -/
theorem map_ok_ne_append_error (messages messages' : List Message) (fault : Error) :
    messages.map Except.ok ≠ messages'.map Except.ok ++ [Except.error fault] := by
  intro heq
  have hmem : Except.error fault ∈ messages.map (Except.ok (ε := Error)) := by
    rw [heq]
    simp
  simp at hmem

/-- Every datagram is framed or broken. A cursor gives messages and no error exactly when the
datagram frames these messages; it gives messages and then an error exactly when the datagram breaks
behind these messages and the error tells how. Either way it gives nothing more. -/
theorem gives_iff_framed (data : Bytes) :
    ((∃ messages, Framed messages data) ∨ ∃ messages fault, Broken messages fault data) ∧
      (∀ messages, Gives Cursor.next? ⟨data⟩ (messages.map .ok) ↔ Framed messages data) ∧
      ∀ messages fault, Gives Cursor.next? ⟨data⟩ (messages.map .ok ++ [.error fault]) ↔
        Broken messages fault data := by
  refine ⟨framed_or_broken data, fun messages => ⟨fun hgives => ?_, Framed.gives⟩,
    fun messages fault => ⟨fun hgives => ?_, Broken.gives⟩⟩
  · rcases framed_or_broken data with ⟨messages', hframed⟩ | ⟨messages', fault, hbroken⟩
    · have heq := hgives.unique hframed.gives
      rwa [(List.map_inj_right fun _ _ => Except.ok.inj).mp heq]
    · exact absurd (hgives.unique hbroken.gives) (map_ok_ne_append_error _ _ _)
  · rcases framed_or_broken data with ⟨messages', hframed⟩ | ⟨messages', fault', hbroken⟩
    · exact absurd (hframed.gives.unique hgives) (map_ok_ne_append_error _ _ _)
    · obtain ⟨heq, hfault⟩ := List.append_inj' (hgives.unique hbroken.gives) rfl
      obtain rfl : fault = fault' := by simpa using hfault
      rwa [(List.map_inj_right fun _ _ => Except.ok.inj).mp heq]

end Message
end SampleTap
