import SampleTap.CommandHeader
import SampleTap.Message
import SampleTap.Proofs.Bytes

/-!
# Walks over datagrams

What `Message.step` takes off a datagram, said with the bytes of the datagram (`step_eq_found_iff`),
where the attributes of its first message stand (`drop_of_split`), and how a message is read when
others follow (`Padded.split_append`).
-/

namespace SampleTap

theorem CommandHeader.split?_eq_some {payload attributes : Bytes} {h : CommandHeader}
    (hsplit : split? payload = some (h, attributes)) :
    length ≤ payload.length ∧ attributes = payload.drop length := by
  -- A payload splits only when two bytes follow the command and the version.
  match payload with
  | [] => simp [split?] at hsplit
  | [_] => simp [split?] at hsplit
  | command :: version :: rest =>
    simp only [split?, Bytes.word16?, Option.bind_eq_bind, Option.bind_eq_some_iff] at hsplit
    obtain ⟨reserved, hreserved, hsplit⟩ := hsplit
    split at hreserved
    · rename_i hholds
      rw [Bytes.holds_iff] at hholds
      simp only [Option.pure_def, Option.some.injEq, Prod.mk.injEq] at hsplit
      refine ⟨?_, hsplit.2.symm⟩
      simp only [length, List.length_cons]
      omega
    · simp at hreserved

namespace Message

/-- A datagram starts with a message exactly when it starts with a header whose length is in
bounds. -/
theorem step_eq_found_iff {data rest : Bytes} {m : Message} :
    step data = .found m rest ↔
      Header.decode? data = some m.header ∧ headerLength ≤ m.header.length.toNat ∧
        m.header.length.toNat ≤ data.length ∧
        m.payload = (data.take m.header.length.toNat).drop headerLength ∧
        rest = data.drop (Bytes.align m.header.length.toNat) := by
  unfold step
  cases hdecode : Header.decode? data with
  | none => simp
  | some h =>
    dsimp only
    split
    -- A length out of bounds makes both sides false.
    · rename_i hbad
      simp only [Bool.or_eq_true, decide_eq_true_eq, Bool.not_eq_true',
        Bytes.holds_eq_false_iff] at hbad
      simp only [reduceCtorEq, Option.some.injEq, false_iff, not_and]
      rintro rfl hlow hhigh
      omega
    · rename_i hgood
      simp only [Bool.or_eq_true, decide_eq_true_eq, Bool.not_eq_true',
        Bytes.holds_eq_false_iff, not_or, Nat.not_lt] at hgood
      constructor
      · intro hfound
        injection hfound with hm hrest
        subst hm hrest
        exact ⟨rfl, hgood.1, hgood.2, rfl, rfl⟩
      · rintro ⟨hheader, -, -, hpayload, rfl⟩
        obtain ⟨header, payload⟩ := m
        simp only [Option.some.injEq] at hheader hpayload
        rw [hheader, hpayload]

/-- A header looks at its own sixteen bytes only. -/
theorem Header.decode?_append {data : Bytes} {h : Header} (tail : Bytes)
    (hdecode : decode? data = some h) : decode? (data ++ tail) = some h := by
  have hlong : 16 ≤ data.length := Header.length_of_decode? hdecode
  simp only [decode?, Option.bind_eq_bind, Option.bind_eq_some_iff] at hdecode ⊢
  obtain ⟨length, hlength, type, htype, flags, hflags, seq, hseq, sender, hsender, hh⟩ := hdecode
  refine ⟨length, Bytes.word32?_append tail hlength, type, ?_, flags, ?_, seq, ?_, sender, ?_, hh⟩
  · rw [List.drop_append_of_le_length (by omega)]
    exact Bytes.word16?_append tail htype
  · rw [List.drop_append_of_le_length (by omega)]
    exact Bytes.word16?_append tail hflags
  · rw [List.drop_append_of_le_length (by omega)]
    exact Bytes.word32?_append tail hseq
  · rw [List.drop_append_of_le_length (by omega)]
    exact Bytes.word32?_append tail hsender

/-- A datagram is read one message at a time. -/
theorem split_eq (data : Bytes) :
    split data =
      match step data with
      | .finished => ([], none)
      | .malformed cause => ([], some cause)
      | .found m rest => (m :: (split rest).1, (split rest).2) := by
  rw [split]
  split <;> rename_i h <;> simp only [h]

theorem split_nil : split [] = ([], none) := by
  rw [split_eq]
  rfl

/-- The attributes of a datagram's first message stand behind the two headers. -/
theorem drop_of_split {data attributes : Bytes} {m : Message} {messages : List Message}
    {command : CommandHeader} (hsplit : (split data).1 = m :: messages)
    (hcommand : CommandHeader.split? m.payload = some (command, attributes)) :
    ∃ tail, data.drop (headerLength + CommandHeader.length) = attributes ++ tail := by
  rw [split_eq] at hsplit
  match hstep : step data with
  | .finished => simp [hstep] at hsplit
  | .malformed cause => simp [hstep] at hsplit
  | .found m' rest =>
    simp only [hstep, List.cons.injEq] at hsplit
    obtain ⟨rfl, -⟩ := hsplit
    obtain ⟨-, hlow, hhigh, hpayload, -⟩ := step_eq_found_iff.mp hstep
    obtain ⟨hlong, rfl⟩ := CommandHeader.split?_eq_some hcommand
    refine ⟨data.drop m'.header.length.toNat, ?_⟩
    -- The message has room for both headers, so they are dropped inside the cut.
    have hcut : headerLength + CommandHeader.length ≤
        (data.take m'.header.length.toNat).length := by
      rw [hpayload, List.length_drop] at hlong
      have : CommandHeader.length = 4 := rfl
      omega
    rw [hpayload, List.drop_drop, ← List.drop_append_of_le_length hcut, List.take_append_drop]

/-! ## Messages back to back -/

/-- A header is read back from its encoding, whatever is behind it. -/
theorem Header.decode?_encode_append (h : Header) (tail : Bytes) :
    decode? (h.encode ++ tail) = some h := by
  simp [decode?, encode, List.append_assoc, List.drop_append, List.drop_of_length_le,
    Bytes.word32?_ofWord32_append, Bytes.word16?_ofWord16_append]

/-- Bytes start with a header exactly when they are the header's bytes and more. -/
theorem Header.decode?_eq_some_iff {data : Bytes} {h : Header} :
    decode? data = some h ↔ ∃ behind, data = h.encode ++ behind := by
  constructor
  · intro hdecode
    simp only [decode?, Option.bind_eq_bind, Option.bind_eq_some_iff] at hdecode
    obtain ⟨length, hlength, type, htype, flags, hflags, seq, hseq, sender, hsender, hh⟩ := hdecode
    obtain rfl := Option.some.inj hh
    refine ⟨data.drop 16, ?_⟩
    -- The five fields are cut off one after the other.
    calc data
      _ = data.take 4 ++ ((data.drop 4).take 2 ++ ((data.drop 6).take 2 ++
            ((data.drop 8).take 4 ++ ((data.drop 12).take 4 ++ data.drop 16)))) := by
          have hcut (n k : Nat) : (data.drop n).take k ++ data.drop (n + k) = data.drop n := by
            rw [← List.drop_drop, List.take_append_drop]
          rw [hcut 12 4, hcut 8 4, hcut 6 2, hcut 4 2, List.take_append_drop]
      _ = _ := by
          rw [Bytes.take_of_word32? hlength, Bytes.take_of_word16? htype,
            Bytes.take_of_word16? hflags, Bytes.take_of_word32? hseq, Bytes.take_of_word32? hsender]
          simp only [encode, List.append_assoc]
  · rintro ⟨behind, rfl⟩
    exact decode?_encode_append h behind

/-- Bytes start with a header exactly when there are enough of them. -/
theorem Header.decode?_eq_none_iff {data : Bytes} :
    decode? data = none ↔ data.length < headerLength := by
  constructor
  · intro hnone
    refine Nat.lt_of_not_le fun hlong => ?_
    have hlong : 16 ≤ data.length := hlong
    -- Every field can be read, so the header can.
    have hfields : 4 ≤ data.length ∧ 2 ≤ data.length - 4 ∧ 2 ≤ data.length - 6 ∧
        4 ≤ data.length - 8 ∧ 4 ≤ data.length - 12 := by omega
    simp [decode?, Bytes.word32?, Bytes.word16?, hfields] at hnone
  · intro hshort
    cases hdecode : decode? data with
    | none => rfl
    | some h => exact absurd (Header.length_of_decode? hdecode) (Nat.not_le_of_lt hshort)
/-- A header that counts itself and a payload is read back with the payload. -/
theorem step_encode {h : Header} {payload : Bytes}
    (hlength : h.length.toNat = headerLength + payload.length) :
    step (h.encode ++ payload) = .found ⟨h, payload⟩ [] := by
  have hwhole : (h.encode ++ payload).length = h.length.toNat := by
    rw [List.length_append, Header.length_encode, hlength]
  rw [step_eq_found_iff]
  refine ⟨Header.decode?_encode_append h payload, ?_, Nat.le_of_eq hwhole.symm, ?_, ?_⟩
  · show headerLength ≤ h.length.toNat
    omega
  · show payload = _
    rw [List.take_of_length_le (Nat.le_of_eq hwhole)]
    exact (List.drop_left' (Header.length_encode h)).symm
  · rw [List.drop_of_length_le]
    exact hwhole ▸ Bytes.le_align _

/-- Whether bytes are one message with its padding, so that another can follow. -/
structure Padded (bytes : Bytes) (m : Message) : Prop where
  step : step bytes = .found m []
  length : bytes.length = Bytes.align m.header.length.toNat

/-- A padded message is the first of a datagram that starts with it. -/
theorem Padded.step_append {first : Bytes} {m : Message} (h : Padded first m) (back : Bytes) :
    Message.step (first ++ back) = .found m back := by
  obtain ⟨hdecode, hlow, hhigh, hpayload, -⟩ := step_eq_found_iff.mp h.step
  rw [step_eq_found_iff]
  refine ⟨Header.decode?_append back hdecode, hlow, ?_, ?_, ?_⟩
  · rw [List.length_append]
    omega
  · rw [List.take_append_of_le_length hhigh]
    exact hpayload
  · rw [← h.length, List.drop_left]

/-- A header that counts a payload without a gap makes a message that others can follow. -/
theorem padded_encode {h : Header} {payload : Bytes}
    (hlength : h.length.toNat = headerLength + payload.length) (haligned : payload.length % 4 = 0) :
    Padded (h.encode ++ payload) ⟨h, payload⟩ := by
  refine ⟨step_encode hlength, ?_⟩
  show (h.encode ++ payload).length = Bytes.align h.length.toNat
  rw [List.length_append, Header.length_encode, hlength, Bytes.align, headerLength]
  omega

theorem Cursor.drain_eq (c : Cursor) :
    c.drain = match c.next? with
      | none => []
      | some (item, c') => item :: c'.drain := by
  rw [drain]
  split <;> rename_i h <;> simp only [h]

theorem Cursor.drain_nil : (Cursor.mk []).drain = [] := by
  rw [drain_eq]
  rfl

/-- A cursor gives what a datagram is split into: its messages, and the fault behind them. -/
theorem Cursor.drain_eq_split (data : Bytes) :
    (Cursor.mk data).drain = (split data).1.map .ok ++ ((split data).2.map .error).toList := by
  induction data using split.induct with
  | case1 data hstep =>
    rw [drain_eq, next?, split_eq, hstep]
    rfl
  | case2 data cause hstep =>
    rw [drain_eq, next?, split_eq, hstep]
    exact congrArg _ drain_nil
  | case3 data m rest hstep _ _ _ _ ih =>
    rw [drain_eq, next?, split_eq, hstep]
    exact congrArg _ ih

/-- A cursor gives a padded message first, and then what is behind it. -/
theorem Padded.drain_append {first : Bytes} {m : Message} (h : Padded first m) (back : Bytes) :
    (Cursor.mk (first ++ back)).drain = .ok m :: (Cursor.mk back).drain := by
  rw [Cursor.drain_eq, Cursor.next?, h.step_append]

/-- A padded message is given before those behind it. -/
theorem Padded.split_append {first : Bytes} {m : Message} (h : Padded first m) (back : Bytes) :
    split (first ++ back) = (m :: (split back).1, (split back).2) := by
  rw [split_eq, h.step_append]

end Message
end SampleTap
