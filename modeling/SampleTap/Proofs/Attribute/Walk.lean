import Mathlib.Algebra.Ring.Nat
import SampleTap.Attribute
import SampleTap.Proofs.Bytes

/-!
# Walks over attribute streams

What `Attribute.step` takes off a stream, said with the bytes of the stream (`step_found`), and what
follows for whole streams:

* `split_eq` is the walk one attribute at a time;
* `StrictCursor.drain_eq_split` says what a walk gives that reports malformed bytes, and
  `StrictCursor.drain_congr` that it does not look ahead;
* `lenient_append` says that bytes behind a stream that is not malformed change nothing of the
  attributes that were there;
* `step_span` says where in the stream an attribute of the walk stands.
-/

namespace SampleTap
namespace Attribute

/-! ## Headers -/

/-- Bytes start with a header exactly when they start with the header's bytes. -/
theorem Header.decode?_eq_some_iff {data : Bytes} {h : Header} :
    decode? data = some h ↔ ∃ behind, data = h.encode ++ behind := by
  constructor
  · intro hdecode
    simp only [decode?_aligned, Option.bind_eq_bind, Option.bind_eq_some_iff] at hdecode
    obtain ⟨length, hlength, type, htype, hh⟩ := hdecode
    obtain rfl := Option.some.inj hh
    refine ⟨data.drop 4, ?_⟩
    -- The two fields are cut off one after the other.
    calc data
      _ = data.take 2 ++ ((data.drop 2).take 2 ++ (data.drop 2).drop 2) := by
          rw [List.take_append_drop, List.take_append_drop]
      _ = Bytes.ofWord16 length ++ (Bytes.ofWord16 type ++ data.drop 4) := by
          rw [Bytes.take_of_word16? hlength, Bytes.take_of_word16? htype, List.drop_drop]
      _ = _ := by rw [encode, List.append_assoc]
  · rintro ⟨behind, rfl⟩
    exact decode?_encode_append h behind

/-- Bytes start with a header exactly when there are enough of them. -/
theorem Header.decode?_eq_none_iff {data : Bytes} :
    decode? data = none ↔ data.length < headerLength := by
  constructor
  · intro hnone
    apply Nat.lt_of_not_le
    intro hlong
    have hfields : 2 ≤ data.length ∧ 2 ≤ data.length - 2 := by
      have : headerLength = 4 := rfl
      omega
    simp [decode?, Bytes.word16?, hfields] at hnone
  · intro hshort
    cases hdecode : decode? data with
    | none => rfl
    | some h =>
      obtain ⟨behind, rfl⟩ := decode?_eq_some_iff.mp hdecode
      rw [List.length_append, length_encode] at hshort
      omega

/-! ## One attribute -/

/-- The number of bytes that an attribute takes, without its padding. -/
def extent (a : Attribute) : Nat := headerLength + a.payload.length

/-- An attribute cut out of a stream extends as far as its header says. -/
theorem extent_cut {data : Bytes} {kind : UInt16} {length : Nat} (hlow : headerLength ≤ length)
    (hhigh : length ≤ data.length) :
    extent ⟨kind, (data.take length).drop headerLength⟩ = length := by
  rw [extent, List.length_drop, List.length_take, Nat.min_eq_left hhigh]
  omega

/-- A stream starts with an attribute exactly when it starts with a header whose length is in
bounds. -/
theorem step_eq_found_iff {data rest : Bytes} {a : Attribute} :
    step data = .found a rest ↔
      ∃ h, Header.decode? data = some h ∧ headerLength ≤ h.length.toNat ∧
        h.length.toNat ≤ data.length ∧
        a = ⟨h.kind, (data.take h.length.toNat).drop headerLength⟩ ∧
        rest = data.drop (Bytes.align h.length.toNat) := by
  unfold step
  by_cases hempty : data.isEmpty
  · rw [List.isEmpty_iff] at hempty
    subst hempty
    simp [Header.decode?, Bytes.word16?, Bytes.holds]
  · rw [if_neg hempty]
    cases hdecode : Header.decode? data with
    | none => simp
    | some h =>
      dsimp only
      split
      -- A length out of bounds makes both sides false.
      · rename_i hbad
        simp only [Bool.or_eq_true, decide_eq_true_eq, Bool.not_eq_true',
          Bytes.holds_eq_false_iff] at hbad
        simp only [reduceCtorEq, Option.some.injEq, false_iff, not_exists]
        rintro h' ⟨rfl, hlow, hhigh, -⟩
        omega
      · rename_i hgood
        simp only [Bool.or_eq_true, decide_eq_true_eq, Bool.not_eq_true',
          Bytes.holds_eq_false_iff, not_or, Nat.not_lt] at hgood
        simp [hgood, eq_comm]

/-- The bytes of an attribute that a stream starts with, and what is behind them. -/
theorem step_found {data rest : Bytes} {a : Attribute} (h : step data = .found a rest) :
    a.extent ≤ data.length ∧ a.payload = (data.drop headerLength).take a.payload.length ∧
      rest = data.drop (Bytes.align a.extent) := by
  obtain ⟨header, -, hlow, hhigh, rfl, rfl⟩ := step_eq_found_iff.mp h
  refine ⟨by rwa [extent_cut hlow hhigh], ?_, by rw [extent_cut hlow hhigh]⟩
  rw [List.length_drop, List.length_take, Nat.min_eq_left hhigh, List.drop_take]

/-- A header looks at its own four bytes only. -/
theorem Header.decode?_append {data : Bytes} {h : Header} (tail : Bytes)
    (hdecode : decode? data = some h) : decode? (data ++ tail) = some h := by
  simp only [decode?_aligned, Option.bind_eq_bind, Option.bind_eq_some_iff] at hdecode ⊢
  obtain ⟨length, hlength, type, htype, hh⟩ := hdecode
  have htwo : 2 ≤ data.length := (Bytes.word16?_eq_some_iff.mp hlength).1
  refine ⟨length, Bytes.word16?_append tail hlength, type, ?_, hh⟩
  rw [List.drop_append_of_le_length htwo]
  exact Bytes.word16?_append tail htype

/-- Bytes behind a stream do not change the attribute that it starts with. -/
theorem step_append {data rest : Bytes} {a : Attribute} (tail : Bytes)
    (h : step data = .found a rest) :
    step (data ++ tail) = .found a ((data ++ tail).drop (Bytes.align a.extent)) := by
  obtain ⟨header, hdecode, hlow, hhigh, ha, hrest⟩ := step_eq_found_iff.mp h
  have hkeep : (data ++ tail).take header.length.toNat = data.take header.length.toNat :=
    List.take_append_of_le_length hhigh
  refine step_eq_found_iff.mpr ⟨header, Header.decode?_append tail hdecode, hlow, ?_, ?_, ?_⟩
  · rw [List.length_append]
    omega
  · rw [hkeep, ha]
  · rw [ha, extent_cut hlow hhigh]

/-! ## What a step looks at -/

theorem Header.decode?_take (data : Bytes) : decode? (data.take headerLength) = decode? data := by
  have htype : (data.take headerLength).drop 2 = (data.drop 2).take 2 := List.drop_take
  simp only [decode?_aligned, htype, Bytes.word16?_take _ (Nat.le_refl 2),
    Bytes.word16?_take data (show 2 ≤ headerLength by decide)]

/-- A stream with the bytes of an attribute in front starts with that attribute. -/
theorem step_found_congr {data data' rest : Bytes} {a : Attribute}
    (hsame : data'.take a.extent = data.take a.extent) (h : step data = .found a rest) :
    step data' = .found a (data'.drop (Bytes.align a.extent)) := by
  obtain ⟨header, hdecode, hlow, hhigh, ha, -⟩ := step_eq_found_iff.mp h
  have hextent : a.extent = header.length.toNat := by
    rw [ha, extent_cut hlow hhigh]
  rw [hextent] at hsame ⊢
  refine step_eq_found_iff.mpr ⟨header, ?_, hlow, ?_, hsame ▸ ha, rfl⟩
  · -- The header is among the bytes that are the same.
    rw [← Header.decode?_take, Bytes.take_congr hlow hsame, Header.decode?_take, hdecode]
  · have hlength := congrArg List.length hsame
    rw [List.length_take, List.length_take] at hlength
    omega

/-- Bytes are no attribute when they are too few for a header, and when the length in their header
is out of bounds. -/
theorem step_eq_malformed_iff {data : Bytes} {cause : Error} :
    step data = .malformed cause ↔
      (data ≠ [] ∧ Header.decode? data = none ∧ cause = .truncated headerLength data.length) ∨
        ∃ h, Header.decode? data = some h ∧
          (h.length.toNat < headerLength ∨ data.length < h.length.toNat) ∧
          cause = .invalidAttribute (.lengthOutOfBounds h.kind h.length.toNat data.length) := by
  unfold step
  by_cases hempty : data.isEmpty
  · rw [List.isEmpty_iff] at hempty
    subst hempty
    simp [Header.decode?, Bytes.word16?, Bytes.holds]
  · rw [if_neg hempty]
    rw [List.isEmpty_iff] at hempty
    cases hdecode : Header.decode? data with
    | none => simp [hempty, eq_comm]
    | some h =>
      dsimp only
      split <;> rename_i hbounds
      all_goals
        simp only [Bool.or_eq_true, decide_eq_true_eq, Bool.not_eq_true',
          Bytes.holds_eq_false_iff] at hbounds
        simp [hbounds, eq_comm]

/-- Of bytes that are no attribute a step sees the header, and how many there are. -/
theorem step_malformed_congr {data data' : Bytes} {cause : Error}
    (hlength : data'.length = data.length)
    (hsame : data'.take headerLength = data.take headerLength) (h : step data = .malformed cause) :
    step data' = .malformed cause := by
  have hdecode : Header.decode? data' = Header.decode? data := by
    rw [← Header.decode?_take, hsame, Header.decode?_take]
  have hempty : data' = [] ↔ data = [] := by
    rw [← List.length_eq_zero_iff, hlength, List.length_eq_zero_iff]
  rw [step_eq_malformed_iff] at h ⊢
  rwa [hdecode, hlength, ne_eq, hempty]

/-! ## Whole streams -/

/-- A stream is read one attribute at a time. -/
theorem split_eq (data : Bytes) :
    split data =
      match step data with
      | .finished => ([], none)
      | .malformed cause => ([], some cause)
      | .found a rest => (a :: (split rest).1, (split rest).2) := by
  rw [split]
  split <;> rename_i h <;> simp only [h]

/-- The lenient reading is one step after another until a step finds no attribute. -/
theorem lenient_eq (data : Bytes) :
    lenient data =
      match step data with
      | .found a rest => a :: lenient rest
      | _ => [] := by
  rw [lenient, split_eq]
  cases step data <;> rfl

/-- Bytes behind a stream that is not malformed add attributes behind those of the stream. -/
theorem lenient_append {data : Bytes} {attributes : List Attribute} (tail : Bytes)
    (h : split data = (attributes, none)) :
    ∃ more, lenient (data ++ tail) = attributes ++ more := by
  fun_induction split data generalizing attributes with
  | case1 data hstep =>
    simp only [Prod.mk.injEq] at h
    exact ⟨lenient (data ++ tail), by rw [← h.1, List.nil_append]⟩
  | case2 data cause hstep => simp at h
  | case3 data a rest hstep hshorter restAttributes fault? hsplit ih =>
    simp only [Prod.mk.injEq] at h
    obtain ⟨rfl, rfl⟩ := h
    have hrest := (step_found hstep).2.2
    rw [lenient_eq, step_append tail hstep]
    by_cases hpadded : Bytes.align a.extent ≤ data.length
    -- With its padding in place the attribute is taken off as before, and the walk goes on.
    · obtain ⟨more, hmore⟩ := ih hsplit
      refine ⟨more, ?_⟩
      rw [List.drop_append_of_le_length hpadded, ← hrest]
      show a :: lenient (rest ++ tail) = _
      rw [hmore, List.cons_append]
    · -- The last attribute lacks padding, which the bytes behind it now give.
      rw [hrest, List.drop_eq_nil_of_le (by omega), split_eq] at hsplit
      have hnone : restAttributes = [] := by simpa [step, eq_comm] using hsplit
      exact ⟨_, by rw [hnone]; rfl⟩

/-! ## Strict walks -/

namespace StrictCursor

theorem drain_eq (c : StrictCursor) :
    c.drain = match c.next? with
      | none => []
      | some (item, c') => item :: c'.drain := by
  rw [drain]
  split <;> rename_i h <;> simp only [h]

theorem drain_nil : (StrictCursor.start []).drain = [] := by
  rw [drain_eq]
  rfl

/-- A strict cursor gives what a stream is split into: its attributes, and the fault behind them. -/
theorem drain_eq_split (data : Bytes) :
    (StrictCursor.start data).drain =
      (split data).1.map .ok ++ ((split data).2.map .error).toList := by
  induction data using split.induct with
  | case1 data hstep =>
    rw [drain_eq, next?_start, split_eq, hstep]
    rfl
  | case2 data cause hstep =>
    rw [drain_eq, next?_start, split_eq, hstep]
    exact congrArg _ drain_nil
  | case3 data a rest hstep _ _ _ _ ih =>
    rw [drain_eq, next?_start, split_eq, hstep]
    exact congrArg _ ih

/-- An attribute comes first if the first step finds it, and the rest is behind it. -/
theorem drain_eq_ok_cons_iff {data : Bytes} {a : Attribute}
    {after : List (Except Error Attribute)} :
    (StrictCursor.start data).drain = .ok a :: after ↔
      ∃ rest, step data = .found a rest ∧ (StrictCursor.start rest).drain = after := by
  rw [drain_eq, next?_start]
  cases step data <;> simp [and_assoc]

/-- A fault comes first if the first step is malformed, and nothing is behind it. -/
theorem drain_eq_error_cons_iff {data : Bytes} {cause : Error}
    {after : List (Except Error Attribute)} :
    (StrictCursor.start data).drain = .error cause :: after ↔
      step data = .malformed cause ∧ after = [] := by
  rw [drain_eq, next?_start]
  cases step data <;> simp [drain_nil, eq_comm]

end StrictCursor

/-! ## Offsets -/

/-- The number of bytes that attributes take, each with its padding. -/
def span (attributes : List Attribute) : Nat := (attributes.map fun a => Bytes.align a.extent).sum

theorem span_cons (a : Attribute) (rest : List Attribute) :
    span (a :: rest) = Bytes.align a.extent + span rest := by
  rw [span, List.map_cons, List.sum_cons, span]

/-- Attributes with their padding take a multiple of four bytes. -/
theorem span_mod_four (attributes : List Attribute) : span attributes % 4 = 0 := by
  induction attributes with
  | nil => rfl
  | cons a rest ih =>
    have := Bytes.align_mod_four a.extent
    rw [span_cons]
    omega

/-- A stream with the bytes of attributes in front gives these attributes, and then what is behind
their bytes. -/
theorem StrictCursor.drain_congr {data data' : Bytes} {before : List Attribute}
    {items : List (Except Error Attribute)}
    (hsame : data'.take (span before) = data.take (span before))
    (h : (StrictCursor.start data).drain = before.map .ok ++ items) :
    (StrictCursor.start data').drain =
      before.map .ok ++ (StrictCursor.start (data'.drop (span before))).drain := by
  induction before generalizing data data' with
  | nil => rfl
  | cons b before ih =>
    rw [List.map_cons, List.cons_append, drain_eq_ok_cons_iff] at h
    obtain ⟨rest, hstep, hrest⟩ := h
    rw [span_cons] at hsame ⊢
    have hextent := Bytes.le_align b.extent
    have hfirst : data'.take b.extent = data.take b.extent := Bytes.take_congr (by omega) hsame
    have hbehind : (data'.drop (Bytes.align b.extent)).take (span before) =
        rest.take (span before) := by
      rw [(step_found hstep).2.2]
      exact Bytes.take_drop_congr hsame
    rw [List.map_cons, List.cons_append, ← List.drop_drop, drain_eq_ok_cons_iff]
    exact ⟨_, step_found_congr hfirst hstep, ih hbehind hrest⟩

/-- What a walk gives behind attributes, it gives behind their bytes. -/
theorem StrictCursor.drain_drop_span {data : Bytes} {before : List Attribute}
    {items : List (Except Error Attribute)}
    (h : (StrictCursor.start data).drain = before.map .ok ++ items) :
    (StrictCursor.start (data.drop (span before))).drain = items := by
  have hsplit := drain_congr rfl h
  rw [h] at hsplit
  exact (List.append_cancel_left hsplit).symm

/-- An attribute stands behind those that the walk meets before it. -/
theorem step_span {data : Bytes} {before after : List Attribute} {a : Attribute}
    (h : lenient data = before ++ a :: after) :
    ∃ rest, step (data.drop (span before)) = .found a rest := by
  induction before generalizing data with
  | nil =>
    rw [lenient_eq] at h
    cases hstep : step data with
    | found b rest =>
      simp only [hstep, List.nil_append, List.cons.injEq] at h
      exact ⟨rest, by rw [span, List.map_nil, List.sum_nil, List.drop_zero, hstep, h.1]⟩
    | finished => simp [hstep] at h
    | malformed cause => simp [hstep] at h
  | cons b before ih =>
    rw [lenient_eq] at h
    cases hstep : step data with
    | found b' rest =>
      simp only [hstep, List.cons_append, List.cons.injEq] at h
      obtain ⟨rfl, hrest⟩ := h
      obtain ⟨behind, hfound⟩ := ih hrest
      refine ⟨behind, ?_⟩
      rw [span_cons, ← List.drop_drop, ← (step_found hstep).2.2, hfound]
    | finished => simp [hstep] at h
    | malformed cause => simp [hstep] at h

/-- All of an attribute that a walk meets is there. -/
theorem span_add_extent_le {data : Bytes} {offset : Nat} {before after : List Attribute}
    {a : Attribute} (h : lenient (data.drop offset) = before ++ a :: after) :
    offset + span before + a.extent ≤ data.length := by
  obtain ⟨rest, hstep⟩ := step_span h
  have hextent := (step_found hstep).1
  have hheader : 4 ≤ a.extent := Nat.le_add_right ..
  rw [List.drop_drop, List.length_drop] at hextent
  omega

end Attribute
end SampleTap
