import SampleTap.Proofs.Attribute.Walk
import SampleTap.Proofs.Cursor

/-!
# The framing of attribute streams

The grammar of attribute streams, said with bytes and without a reader: attributes in order, each
with its padding (`Attribute.Packed`), and perhaps a last one that lacks bytes of its padding
(`Attribute.Framed`). A stream that is not of this form has bytes behind some attributes that are
no attribute (`Attribute.Broken`).

Splitting a stream finds which of the two it is (`split_eq_framed_iff`, `split_eq_broken_iff`). Both
cursors give what a stream is split into: the strict one the attributes and then the error, the
lenient one the attributes alone (`cursors_give_framed`).
-/

namespace SampleTap
namespace Attribute

/-! ## The grammar -/

/-- Whether bytes are those of an attribute without padding: a header with the attribute's number,
whatever flag bits stand beside it, that counts itself and the payload, and then the payload. -/
inductive Written : Attribute → Bytes → Prop
  | intro {h : Header} {payload : Bytes} : h.length.toNat = headerLength + payload.length →
      Written ⟨h.kind, payload⟩ (h.encode ++ payload)

/-- The number of bytes from the end of an attribute to the next multiple of four. -/
def gap (a : Attribute) : Nat := Bytes.align a.extent - a.extent

/-- Whether bytes are attributes in order, each followed by its padding, which may hold anything. -/
inductive Packed : List Attribute → Bytes → Prop
  | nil : Packed [] []
  | cons {a : Attribute} {attributes : List Attribute} {block padding rest : Bytes} :
      Written a block → padding.length = a.gap → Packed attributes rest →
      Packed (a :: attributes) (block ++ padding ++ rest)

/-- Whether bytes are attributes as a stream frames them. -/
inductive Framed : List Attribute → Bytes → Prop
  /-- Nothing is behind the attributes. -/
  | whole {attributes : List Attribute} {data : Bytes} : Packed attributes data →
      Framed attributes data
  /-- The last attribute lacks bytes of its padding. -/
  | cut {attributes : List Attribute} {a : Attribute} {front block padding : Bytes} :
      Packed attributes front → Written a block → padding.length < a.gap →
      Framed (attributes ++ [a]) (front ++ (block ++ padding))

/-- Whether bytes start no attribute although there are some, and which error tells so. -/
inductive Malformed : Error → Bytes → Prop
  /-- They are too few for a header. -/
  | short {data : Bytes} : data ≠ [] → data.length < headerLength →
      Malformed (.truncated headerLength data.length) data
  /-- The length in their header is below the header's own or above what is left. -/
  | length {h : Header} {behind : Bytes} :
      h.length.toNat < headerLength ∨ (h.encode ++ behind).length < h.length.toNat →
      Malformed (.invalidAttribute
        (.lengthOutOfBounds h.kind h.length.toNat (h.encode ++ behind).length)) (h.encode ++ behind)

/-- Whether bytes are attributes and then some that start no attribute, and which error tells so. -/
inductive Broken : List Attribute → Error → Bytes → Prop
  | intro {attributes : List Attribute} {fault : Error} {front back : Bytes} :
      Packed attributes front → Malformed fault back → Broken attributes fault (front ++ back)

/-! ## One step of the walk, in the grammar's terms -/

theorem Written.length {a : Attribute} {block : Bytes} (h : Written a block) :
    block.length = a.extent := by
  cases h with
  | intro _ => rw [List.length_append, Header.length_encode, extent]

theorem extent_add_gap (a : Attribute) : a.extent + a.gap = Bytes.align a.extent := by
  have := Bytes.le_align a.extent
  unfold gap
  omega

/-- The bytes of an attribute are taken off a stream with the padding behind them. -/
theorem Written.step_append {a : Attribute} {block : Bytes} (h : Written a block) (behind : Bytes) :
    step (block ++ behind) = .found a (behind.drop a.gap) := by
  have hlength := h.length
  cases h with
  | @intro h payload hcounted =>
    have hwhole : (h.encode ++ payload).length = h.length.toNat := by
      rw [hlength, extent, hcounted]
    have hhigh : h.length.toNat ≤ (h.encode ++ payload ++ behind).length := by
      rw [List.length_append, hwhole]
      omega
    refine step_eq_found_iff.mpr ⟨h, ?_, by omega, hhigh, ?_, ?_⟩
    · rw [List.append_assoc]
      exact Header.decode?_encode_append h _
    · rw [List.take_left' hwhole, List.drop_left' (Header.length_encode h)]
    · rw [← hwhole, hlength, ← extent_add_gap, ← List.drop_drop, List.drop_left' hlength]

/-- A stream starts with an attribute exactly when it starts with the attribute's bytes; what is
behind them, without the padding, is left. -/
theorem step_eq_found_iff_written {data rest : Bytes} {a : Attribute} :
    step data = .found a rest ↔
      ∃ block behind, Written a block ∧ data = block ++ behind ∧ rest = behind.drop a.gap := by
  constructor
  · intro hstep
    obtain ⟨h, hdecode, hlow, hhigh, -⟩ := step_eq_found_iff.mp hstep
    obtain ⟨behind, rfl⟩ := Header.decode?_eq_some_iff.mp hdecode
    rw [List.length_append, Header.length_encode] at hhigh
    -- What the header counts behind itself is the payload.
    have hcounted : h.length.toNat =
        headerLength + (behind.take (h.length.toNat - headerLength)).length := by
      rw [List.length_take]
      omega
    have hwritten := Written.intro hcounted
    have hdata : h.encode ++ behind = h.encode ++ behind.take (h.length.toNat - headerLength) ++
        behind.drop (h.length.toNat - headerLength) := by
      rw [List.append_assoc, List.take_append_drop]
    rw [hdata, hwritten.step_append] at hstep
    obtain ⟨rfl, rfl⟩ := Step.found.inj hstep
    exact ⟨_, _, hwritten, hdata, rfl⟩
  · rintro ⟨block, behind, hwritten, rfl, rfl⟩
    exact hwritten.step_append behind

theorem step_eq_finished_iff {data : Bytes} : step data = .finished ↔ data = [] := by
  unfold step
  split
  · rename_i hempty
    exact iff_of_true rfl (List.isEmpty_iff.mp hempty)
  · rename_i hne
    refine iff_of_false ?_ (mt List.isEmpty_iff.mpr hne)
    split
    · exact Step.noConfusion
    · split <;> exact Step.noConfusion

theorem step_eq_malformed_iff_malformed {data : Bytes} {cause : Error} :
    step data = .malformed cause ↔ Malformed cause data := by
  rw [step_eq_malformed_iff]
  constructor
  · rintro (⟨hne, hdecode, rfl⟩ | ⟨h, hdecode, hbad, rfl⟩)
    · exact .short hne (Header.decode?_eq_none_iff.mp hdecode)
    · obtain ⟨behind, rfl⟩ := Header.decode?_eq_some_iff.mp hdecode
      exact .length hbad
  · intro h
    cases h with
    | short hne hshort => exact .inl ⟨hne, Header.decode?_eq_none_iff.mpr hshort, rfl⟩
    | @length h behind hbad =>
      exact .inr ⟨h, Header.decode?_eq_some_iff.mpr ⟨behind, rfl⟩, hbad, rfl⟩

/-! ## Splitting a stream -/

/-- Attributes with their padding are split off one by one, and then what is behind them is
split. -/
theorem Packed.split_append {attributes : List Attribute} {front : Bytes}
    (h : Packed attributes front) (back : Bytes) :
    split (front ++ back) = (attributes ++ (split back).1, (split back).2) := by
  induction h with
  | nil => rfl
  | @cons a attributes block padding rest hwritten hpadding _ ih =>
    have hbehind : (padding ++ (rest ++ back)).drop a.gap = rest ++ back := by
      rw [← hpadding, List.drop_left]
    have hstep := hwritten.step_append (padding ++ (rest ++ back))
    rw [hbehind] at hstep
    rw [List.append_assoc, List.append_assoc, split_eq, hstep]
    dsimp only
    rw [ih, List.cons_append]

theorem split_nil : split [] = ([], none) := by
  rw [split_eq]
  rfl

/-- Attributes that end with their bytes are all given, without a fault. -/
theorem Framed.split_eq {attributes : List Attribute} {data : Bytes} (h : Framed attributes data) :
    split data = (attributes, none) := by
  cases h with
  | whole hpacked =>
    have hsplit := hpacked.split_append []
    rwa [List.append_nil, split_nil, List.append_nil] at hsplit
  | @cut attributes a front block padding hpacked hwritten hcut =>
    have hlast : split (block ++ padding) = ([a], none) := by
      rw [Attribute.split_eq, hwritten.step_append, List.drop_of_length_le (Nat.le_of_lt hcut)]
      dsimp only
      rw [split_nil]
    rw [hpacked.split_append, hlast]

/-- Attributes in front of a fault are given, and then the fault. -/
theorem Broken.split_eq {attributes : List Attribute} {fault : Error} {data : Bytes}
    (h : Broken attributes fault data) : split data = (attributes, some fault) := by
  cases h with
  | @intro front back hpacked hmalformed =>
    have hback : split back = ([], some fault) := by
      rw [Attribute.split_eq, step_eq_malformed_iff_malformed.mpr hmalformed]
    rw [hpacked.split_append, hback, List.append_nil]

/-! ## Every stream is framed or broken -/

theorem Framed.cons {a : Attribute} {attributes : List Attribute} {block padding rest : Bytes}
    (hwritten : Written a block) (hpadding : padding.length = a.gap) (h : Framed attributes rest) :
    Framed (a :: attributes) (block ++ padding ++ rest) := by
  cases h with
  | whole hpacked => exact .whole (.cons hwritten hpadding hpacked)
  | cut hpacked hlast hcut =>
    rw [← List.append_assoc, ← List.cons_append]
    exact .cut (.cons hwritten hpadding hpacked) hlast hcut

theorem Broken.cons {a : Attribute} {attributes : List Attribute} {fault : Error}
    {block padding rest : Bytes} (hwritten : Written a block) (hpadding : padding.length = a.gap)
    (h : Broken attributes fault rest) :
    Broken (a :: attributes) fault (block ++ padding ++ rest) := by
  cases h with
  | intro hpacked hmalformed =>
    rw [← List.append_assoc]
    exact .intro (.cons hwritten hpadding hpacked) hmalformed

/-- Every byte string is attributes to its end or up to a fault. -/
theorem framed_or_broken (data : Bytes) :
    (∃ attributes, Framed attributes data) ∨
      ∃ attributes fault, Broken attributes fault data := by
  -- The induction is that of `split`, which takes one attribute at a time.
  induction data using split.induct with
  | case1 data hstep =>
    obtain rfl := step_eq_finished_iff.mp hstep
    exact .inl ⟨[], .whole .nil⟩
  | case2 data cause hstep =>
    exact .inr ⟨[], cause, .intro .nil (step_eq_malformed_iff_malformed.mp hstep)⟩
  | case3 data a rest hstep _ _ _ _ ih =>
    obtain ⟨block, behind, hwritten, rfl, rfl⟩ := step_eq_found_iff_written.mp hstep
    by_cases hpadded : a.gap ≤ behind.length
    -- With its padding in place the attribute stands in front of what the rest is.
    · have hpadding : (behind.take a.gap).length = a.gap := List.length_take_of_le hpadded
      have hsplit : block ++ behind = block ++ behind.take a.gap ++ behind.drop a.gap := by
        rw [List.append_assoc, List.take_append_drop]
      rw [hsplit]
      rcases ih with ⟨attributes, hframed⟩ | ⟨attributes, fault, hbroken⟩
      · exact .inl ⟨_, hframed.cons hwritten hpadding⟩
      · exact .inr ⟨_, fault, hbroken.cons hwritten hpadding⟩
    · exact .inl ⟨[a], .cut .nil hwritten (Nat.lt_of_not_le hpadded)⟩

/-- A stream is split without a fault exactly when it frames its attributes. -/
theorem split_eq_framed_iff {data : Bytes} {attributes : List Attribute} :
    split data = (attributes, none) ↔ Framed attributes data := by
  refine ⟨fun hsplit => ?_, Framed.split_eq⟩
  rcases framed_or_broken data with ⟨attributes', hframed⟩ | ⟨attributes', fault, hbroken⟩
  · obtain rfl := congrArg Prod.fst (hsplit.symm.trans hframed.split_eq)
    exact hframed
  · simp [hbroken.split_eq] at hsplit

/-- A stream is split with a fault exactly when it breaks there. -/
theorem split_eq_broken_iff {data : Bytes} {attributes : List Attribute} {fault : Error} :
    split data = (attributes, some fault) ↔ Broken attributes fault data := by
  refine ⟨fun hsplit => ?_, Broken.split_eq⟩
  rcases framed_or_broken data with ⟨attributes', hframed⟩ | ⟨attributes', fault', hbroken⟩
  · simp [hframed.split_eq] at hsplit
  · have hsame := hbroken.split_eq.symm.trans hsplit
    simp only [Prod.mk.injEq, Option.some.injEq] at hsame
    obtain ⟨rfl, rfl⟩ := hsame
    exact hbroken

/-! ## What cursors give -/

open SampleTap.Cursor (Gives gives_nil_iff gives_cons_iff)

/-- What a strict cursor gives of a stream that is split like this: the attributes, and the fault
behind them. -/
def items (s : List Attribute × Option Error) : List (Except Error Attribute) :=
  s.1.map .ok ++ (s.2.map .error).toList

theorem filterMap_toOption_items (s : List Attribute × Option Error) :
    (items s).filterMap Except.toOption = s.1 := by
  have hattributes : (s.1.map .ok).filterMap (Except.toOption (ε := Error)) = s.1 := by
    rw [List.filterMap_map]
    exact List.filterMap_some
  have hfault : ((s.2.map .error).toList).filterMap (Except.toOption (ε := Error)) =
      ([] : List Attribute) := by
    cases s.2 <;> rfl
  rw [items, List.filterMap_append, hattributes, hfault, List.append_nil]

/-- What a strict cursor gives tells the attributes and the fault apart. -/
theorem items_inj {s s' : List Attribute × Option Error} : items s = items s' ↔ s = s' := by
  refine ⟨fun h => ?_, congrArg items⟩
  obtain ⟨attributes, fault?⟩ := s
  obtain ⟨attributes', fault'?⟩ := s'
  have hattributes := congrArg (List.filterMap Except.toOption) h
  rw [filterMap_toOption_items, filterMap_toOption_items] at hattributes
  dsimp only at hattributes
  subst hattributes
  have hfault := List.append_cancel_left h
  cases fault? <;> cases fault'? <;> simp_all

/-- A strict cursor gives the items of its stream. -/
theorem StrictCursor.gives_items (data : Bytes) :
    Gives next? (.start data) (items (split data)) := by
  induction data using split.induct with
  | case1 data hstep =>
    rw [split_eq, hstep]
    exact gives_nil_iff.mpr (by rw [next?_start, hstep])
  | case2 data cause hstep =>
    rw [split_eq, hstep]
    refine gives_cons_iff.mpr ⟨.start [], ?_, gives_nil_iff.mpr rfl⟩
    rw [next?_start, hstep]
  | case3 data a rest hstep _ _ _ _ ih =>
    rw [split_eq, hstep]
    refine gives_cons_iff.mpr ⟨.start rest, ?_, ih⟩
    rw [next?_start, hstep]

/-- A strict cursor gives just the attributes of its bytes and the fault behind them. -/
theorem StrictCursor.gives_iff {data : Bytes} {s : List Attribute × Option Error} :
    Gives next? (.start data) (items s) ↔ split data = s := by
  constructor
  · intro h
    exact items_inj.mp ((gives_items data).unique h)
  · rintro rfl
    exact gives_items data

/-- A lenient cursor gives the attributes of its stream. -/
theorem Cursor.gives_lenient (data : Bytes) : Gives next? (.start data) (lenient data) := by
  induction data using split.induct with
  | case1 data hstep =>
    rw [lenient_eq, hstep]
    exact gives_nil_iff.mpr (by rw [next?_start, hstep])
  | case2 data cause hstep =>
    rw [lenient_eq, hstep]
    exact gives_nil_iff.mpr (by rw [next?_start, hstep])
  | case3 data a rest hstep _ _ _ _ ih =>
    rw [lenient_eq, hstep]
    refine gives_cons_iff.mpr ⟨.start rest, ?_, ih⟩
    rw [next?_start, hstep]

/-- Every stream is framed or broken. A strict cursor gives attributes and no error exactly when the
stream frames these attributes; it gives attributes and then an error exactly when the stream breaks
behind these attributes and the error tells how. Either way it gives nothing more. A lenient cursor
gives the attributes among what a strict one gives, and then nothing for good. -/
theorem cursors_give_framed (data : Bytes) :
    ((∃ attributes, Framed attributes data) ∨
        ∃ attributes fault, Broken attributes fault data) ∧
      (∀ attributes, Gives StrictCursor.next? (.start data) (attributes.map .ok) ↔
        Framed attributes data) ∧
      (∀ attributes fault,
        Gives StrictCursor.next? (.start data) (attributes.map .ok ++ [.error fault]) ↔
          Broken attributes fault data) ∧
      ∃ given, Gives StrictCursor.next? (.start data) given ∧
        Gives Cursor.next? (.start data) (given.filterMap Except.toOption) := by
  refine ⟨framed_or_broken data, fun attributes => ?_, fun attributes fault => ?_,
    items (split data), StrictCursor.gives_items data, ?_⟩
  · have hitems : attributes.map Except.ok = items (attributes, none) := (List.append_nil _).symm
    rw [hitems]
    exact StrictCursor.gives_iff.trans split_eq_framed_iff
  · exact StrictCursor.gives_iff.trans split_eq_broken_iff
  · rw [filterMap_toOption_items]
    exact Cursor.gives_lenient data

end Attribute
end SampleTap
