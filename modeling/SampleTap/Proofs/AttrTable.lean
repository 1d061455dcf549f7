import SampleTap.AttrTable
import SampleTap.Proofs.Attribute.Walk

/-!
# What a table holds

A table is made of the attributes of a stream without a fault, all of them known and long enough
(`wellFormed_of_parse`). It holds for each identifier what the last attribute of that number carries
(`get?_of_parse`); where there is at most one this is also the first (`get?_of_parse_once`), which
is what a search from the front of the stream finds.
-/

namespace SampleTap

/-- Identifiers are listed in the order of their numbers. -/
theorem AttrId.index_getElem_all : ∀ k : Fin all.length, all[k].index.val = k.val := by decide

theorem AttrId.ofNat?_eq_some_iff {n : Nat} {id : AttrId} : ofNat? n = some id ↔ n = id.index := by
  constructor
  · intro h
    obtain ⟨hlt, rfl⟩ := List.getElem?_eq_some_iff.mp h
    exact (index_getElem_all ⟨n, hlt⟩).symm
  · rintro rfl
    exact ofNat?_index id

/-- Whether an attribute carries the number of an identifier. -/
def Attribute.isOf (id : AttrId) (a : Attribute) : Bool := a.kind.toNat == id.index

theorem Attribute.isOf_iff {id : AttrId} {a : Attribute} :
    a.isOf id ↔ a.kind.toNat = id.index := beq_iff_eq

namespace AttrTable

/-! ## Attributes that a table takes -/

theorem identify_eq_ok_iff {a : Attribute} {id : AttrId} :
    identify a = .ok id ↔ a.isOf id ∧ id.minLength ≤ a.payload.length := by
  have hid : a.isOf id ↔ AttrId.ofNat? a.kind.toNat = some id := by
    rw [AttrId.ofNat?_eq_some_iff, Attribute.isOf, beq_iff_eq]
  rw [hid]
  unfold identify
  cases AttrId.ofNat? a.kind.toNat with
  | none => simp
  | some id' =>
    dsimp only
    split <;> rename_i hlength
    · simp only [reduceCtorEq, Option.some.injEq, false_iff, not_and]
      rintro rfl
      exact Nat.not_le_of_lt hlength
    · simp only [Except.ok.injEq, Option.some.injEq]
      constructor
      · rintro rfl
        exact ⟨rfl, Nat.le_of_not_lt hlength⟩
      · exact And.left

/-- An attribute has the number of one identifier only. -/
theorem isOf_iff_of_isOf {a : Attribute} {id : AttrId} (h : a.isOf id) (id' : AttrId) :
    a.isOf id' ↔ id = id' := by
  rw [Attribute.isOf, beq_iff_eq] at h ⊢
  rw [h, index_inj]

/-! ## Filling a table -/

/-- A table that could be filled was filled with known attributes, and no fault followed them. -/
theorem wellFormed_of_fill {fault? : Option Error} {t t' : AttrTable} {attributes : List Attribute}
    (h : fill fault? t attributes = .ok t') :
    fault? = none ∧ ∀ a ∈ attributes, ∃ id, identify a = .ok id := by
  induction attributes generalizing t with
  | nil => cases fault? <;> simp_all [fill]
  | cons a rest ih =>
    rw [fill] at h
    cases hid : identify a with
    | error e => simp [hid] at h
    | ok id =>
      simp only [hid] at h
      obtain ⟨hfault, hrest⟩ := ih h
      refine ⟨hfault, fun b hb => ?_⟩
      rcases List.mem_cons.mp hb with rfl | hb
      · exact ⟨id, hid⟩
      · exact hrest b hb

/-- Filling keeps the last attribute of each number, and else what was there. -/
theorem get?_of_fill {fault? : Option Error} {t t' : AttrTable} {attributes : List Attribute}
    (h : fill fault? t attributes = .ok t') (id : AttrId) :
    t'.get? id =
      ((attributes.filter (Attribute.isOf id)).getLast?.map Attribute.payload).or (t.get? id) := by
  induction attributes generalizing t with
  | nil =>
    cases fault? with
    | some fault => simp [fill] at h
    | none =>
      simp only [fill, Except.ok.injEq] at h
      simp [h]
  | cons a rest ih =>
    rw [fill] at h
    cases hid : identify a with
    | error e => simp [hid] at h
    | ok id' =>
      simp only [hid] at h
      have hof := isOf_iff_of_isOf (identify_eq_ok_iff.mp hid).1 id
      rw [ih h, get?_insert]
      -- What follows `a` wins over `a`, and `a` over what the table held.
      by_cases hsame : id' = id
      · rw [if_pos hsame, List.filter_cons_of_pos (hof.mpr hsame), List.getLast?_cons]
        cases (rest.filter (Attribute.isOf id)).getLast? <;> simp
      · rw [if_neg hsame, List.filter_cons_of_neg (mt hof.mp hsame)]

/-! ## Reading a stream -/

/-- A stream that makes a table has no fault, and its attributes are known and long enough. -/
theorem wellFormed_of_parse {data : Bytes} {t : AttrTable} (h : parse data = .ok t) :
    Attribute.split data = (Attribute.lenient data, none) ∧
      ∀ a ∈ Attribute.lenient data, ∃ id, identify a = .ok id := by
  obtain ⟨hfault, hall⟩ := wellFormed_of_fill h
  exact ⟨Prod.ext rfl hfault, hall⟩

/-- An attribute of a stream that makes a table is long enough for its kind. -/
theorem minLength_le_of_parse {data : Bytes} {t : AttrTable} {a : Attribute} {id : AttrId}
    (h : parse data = .ok t) (ha : a ∈ Attribute.lenient data) (hid : a.isOf id) :
    id.minLength ≤ a.payload.length := by
  obtain ⟨id', hid'⟩ := (wellFormed_of_parse h).2 a ha
  obtain ⟨hof, hlength⟩ := identify_eq_ok_iff.mp hid'
  rwa [(isOf_iff_of_isOf hof id).mp hid] at hlength

/-- The table of a stream holds the last attribute of each number. -/
theorem get?_of_parse {data : Bytes} {t : AttrTable} (h : parse data = .ok t) (id : AttrId) :
    t.get? id =
      ((Attribute.lenient data).filter (Attribute.isOf id)).getLast?.map Attribute.payload := by
  have hget := get?_of_fill h id
  rw [get?_empty, Option.or_none] at hget
  exact hget

/-- Of an attribute that is not repeated the table holds the first. -/
theorem get?_of_parse_once {data : Bytes} {t : AttrTable} (h : parse data = .ok t) (id : AttrId)
    (honce : (Attribute.lenient data).countP (Attribute.isOf id) ≤ 1) :
    t.get? id = ((Attribute.lenient data).find? (Attribute.isOf id)).map Attribute.payload := by
  rw [get?_of_parse h, ← List.head?_filter]
  rw [List.countP_eq_length_filter] at honce
  -- The filtered list is empty or a singleton, where first and last are the same.
  match hfilter : (Attribute.lenient data).filter (Attribute.isOf id) with
  | [] => rfl
  | [a] => rfl
  | a :: b :: rest => simp [hfilter] at honce

/-- A word of a table is the payload of the attribute that carries it. -/
theorem find?_of_u32?_eq_some {data : Bytes} {t : AttrTable} {id : AttrId} {w : UInt32}
    (h : parse data = .ok t)
    (honce : (Attribute.lenient data).countP (Attribute.isOf id) ≤ 1) (hw : t.u32? id = some w) :
    ∃ a, (Attribute.lenient data).find? (Attribute.isOf id) = some a ∧
      Bytes.word32? a.payload = some w := by
  rw [u32?, get?_of_parse_once h id honce, Option.bind_eq_some_iff] at hw
  obtain ⟨payload, hpayload, hword⟩ := hw
  obtain ⟨a, ha, rfl⟩ := Option.map_eq_some_iff.mp hpayload
  exact ⟨a, ha, hword⟩

/-- A payload in a table is long enough for its kind. -/
theorem minLength_le_of_get? {data payload : Bytes} {t : AttrTable} {id : AttrId}
    (h : parse data = .ok t) (hpayload : t.get? id = some payload) :
    id.minLength ≤ payload.length := by
  -- The table checked the attribute that the payload is from.
  obtain ⟨a, hlast, rfl⟩ := Option.map_eq_some_iff.mp ((get?_of_parse h id).symm.trans hpayload)
  obtain ⟨ha, hid⟩ := List.mem_filter.mp (List.mem_of_getLast? hlast)
  exact minLength_le_of_parse h ha hid

/-- A read for which the table checks the length gives a value exactly when the attribute is
there. -/
theorem isSome_bind_get? {α : Type} {data : Bytes} {t : AttrTable} {id : AttrId}
    {read : Bytes → Option α} (h : parse data = .ok t)
    (hread : ∀ payload : Bytes, id.minLength ≤ payload.length → (read payload).isSome) :
    ((t.get? id).bind read).isSome = t.contains id := by
  rw [contains]
  cases hpayload : t.get? id with
  | none => rfl
  | some payload => exact hread payload (minLength_le_of_get? h hpayload)

theorem isSome_u16?_of_parse {data : Bytes} {t : AttrTable} {id : AttrId} (h : parse data = .ok t)
    (hlength : 2 ≤ id.minLength) : (t.u16? id).isSome = t.contains id :=
  isSome_bind_get? h fun _ hlong => Bytes.isSome_word16?_iff.mpr (Nat.le_trans hlength hlong)

theorem isSome_u32?_of_parse {data : Bytes} {t : AttrTable} {id : AttrId} (h : parse data = .ok t)
    (hlength : 4 ≤ id.minLength) : (t.u32? id).isSome = t.contains id :=
  isSome_bind_get? h fun _ hlong => Bytes.isSome_word32?_iff.mpr (Nat.le_trans hlength hlong)

/-- A word whose length the table checks is missing only when its attribute is. -/
theorem get?_eq_none_of_u32? {data : Bytes} {t : AttrTable} {id : AttrId} (h : parse data = .ok t)
    (hnone : t.u32? id = none) (hlength : 4 ≤ id.minLength) : t.get? id = none := by
  have hcontains := isSome_u32?_of_parse h hlength
  rw [hnone, contains] at hcontains
  exact Option.isNone_iff_eq_none.mp (by simpa using hcontains.symm)

end AttrTable

end SampleTap
