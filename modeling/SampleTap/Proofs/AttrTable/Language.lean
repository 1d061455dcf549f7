import SampleTap.Proofs.AttrTable

/-!
# The streams that make a table

Which streams make a table, said with the attributes that a strict walk gives: each is admitted by
its number and the length of its payload (`AttrTable.Accepted`). Which table a stream makes: for
each number the payload of the latest attribute (`AttrTable.Latest`). And what is wrong with any
other stream: the first item that is not an admitted attribute (`AttrTable.Refused`), whatever is
behind it.

`parse_iff_admitted` says that reading a stream comes to just that.
-/

namespace SampleTap

open Attribute (headerLength span)
open Attribute.StrictCursor (drain_congr drain_drop_span drain_eq_ok_cons_iff
  drain_eq_error_cons_iff drain_eq_split)

/-- Whether a table takes an attribute: its number is one of the family, and the numbers of words
have a payload with the word's bytes. -/
def Attribute.Admitted (a : Attribute) : Prop :=
  a.kind.toNat ≤ 16 ∧ (a.kind.toNat ∈ [0, 1] → 2 ≤ a.payload.length) ∧
    (a.kind.toNat ∈ [2, 3, 4, 5, 7] → 4 ≤ a.payload.length)

instance (a : Attribute) : Decidable a.Admitted := inferInstanceAs (Decidable (_ ∧ _ ∧ _))

namespace AttrTable

/-! ## What is read from a stream -/

/-- What is wrong with an item of a stream. -/
inductive Offends : Except Error Attribute → Error → Prop
  /-- The bytes are no attribute. -/
  | fault {e : Error} : Offends (.error e) e
  /-- The number is not one of the family, whatever the payload is. -/
  | outOfRange {a : Attribute} : 16 < a.kind.toNat →
      Offends (.ok a) (.invalidAttribute (.outOfRange a.kind))
  /-- The payload does not hold two bytes. -/
  | short16 {a : Attribute} : a.kind.toNat ∈ [0, 1] → a.payload.length < 2 →
      Offends (.ok a) (.invalidAttribute (.tooShort a.kind a.payload.length 2))
  /-- The payload does not hold four bytes. -/
  | short32 {a : Attribute} : a.kind.toNat ∈ [2, 3, 4, 5, 7] → a.payload.length < 4 →
      Offends (.ok a) (.invalidAttribute (.tooShort a.kind a.payload.length 4))

/-- Whether a strict walk gives attributes and no more, all of them admitted. -/
structure Accepted (data : Bytes) (attributes : List Attribute) : Prop where
  items : (Attribute.StrictCursor.start data).drain = attributes.map .ok
  admitted : ∀ a ∈ attributes, a.Admitted

/-- Whether a strict walk gives admitted attributes, and then an item with something wrong. -/
structure Refused (data : Bytes) (before : List Attribute) (item : Except Error Attribute)
    (e : Error) : Prop where
  items : ∃ after, (Attribute.StrictCursor.start data).drain = before.map .ok ++ item :: after
  admitted : ∀ a ∈ before, a.Admitted
  offends : Offends item e

/-- The payload of the latest attribute with a number, if there is one. -/
inductive Latest (n : Nat) : List Attribute → Option Bytes → Prop
  | absent {attributes : List Attribute} : (∀ a ∈ attributes, a.kind.toNat ≠ n) →
      Latest n attributes none
  | present {before after : List Attribute} {a : Attribute} : a.kind.toNat = n →
      (∀ b ∈ after, b.kind.toNat ≠ n) → Latest n (before ++ a :: after) (some a.payload)

/-- Whether two streams are the same as far as an item behind attributes: up to the end of an
attribute, and for bytes that are no attribute up to the end of a header, with as many bytes behind
it. -/
def SameUpTo (before : List Attribute) (data data' : Bytes) : Except Error Attribute → Prop
  | .ok a => data'.take (span before + a.extent) = data.take (span before + a.extent)
  | .error _ => data'.length = data.length ∧
      data'.take (span before + headerLength) = data.take (span before + headerLength)

/-! ## One item -/

variable {a : Attribute} {item : Except Error Attribute} {e : Error} {data : Bytes}

/-- Every slot of a table is the one of an identifier. -/
theorem exists_index_eq (i : Fin (AttrId.max + 1)) : ∃ id : AttrId, id.index = i := by
  obtain ⟨id, hid⟩ := Option.ne_none_iff_exists'.mp
    (mt AttrId.ofNat?_eq_none_iff.mp (Nat.not_lt_of_le (Nat.le_of_lt_succ i.isLt)))
  exact ⟨id, Fin.ext (AttrId.ofNat?_eq_some_iff.mp hid).symm⟩

theorem exists_isOf (h : a.kind.toNat ≤ 16) : ∃ id, a.isOf id := by
  obtain ⟨id, hid⟩ := exists_index_eq ⟨a.kind.toNat, Nat.lt_succ_of_le h⟩
  exact ⟨id, Attribute.isOf_iff.mpr (congrArg Fin.val hid).symm⟩

theorem identify_of_isOf {id : AttrId} (h : a.isOf id) :
    identify a = if a.payload.length < id.minLength then
      .error (.invalidAttribute (.tooShort a.kind a.payload.length id.minLength)) else .ok id := by
  rw [Attribute.isOf_iff, ← AttrId.ofNat?_eq_some_iff] at h
  simp only [identify, h]

/-- The least length of an attribute, by its number. -/
theorem minLength_of_isOf {id : AttrId} (h : a.isOf id) :
    id.minLength = if a.kind.toNat ∈ [0, 1] then 2
      else if a.kind.toNat ∈ [2, 3, 4, 5, 7] then 4 else 0 := by
  rw [Attribute.isOf_iff.mp h]
  cases id <;> rfl

theorem exists_identify_of_admitted (h : a.Admitted) : ∃ id, identify a = .ok id := by
  obtain ⟨hrange, h16, h32⟩ := h
  obtain ⟨id, hid⟩ := exists_isOf hrange
  refine ⟨id, ?_⟩
  rw [identify_of_isOf hid, if_neg]
  rw [minLength_of_isOf hid]
  split
  · exact Nat.not_lt_of_le (h16 ‹_›)
  · split
    · exact Nat.not_lt_of_le (h32 ‹_›)
    · exact Nat.not_lt_zero _

theorem Offends.identify_eq (h : Offends (.ok a) e) : identify a = .error e := by
  cases h with
  | outOfRange hrange => simp only [identify, AttrId.ofNat?_eq_none_iff.mpr hrange]
  | short16 hkind hshort =>
    have hrange : a.kind.toNat ≤ 16 := by
      simp only [List.mem_cons, List.not_mem_nil, or_false] at hkind
      omega
    obtain ⟨id, hid⟩ := exists_isOf hrange
    have hleast : id.minLength = 2 := by rw [minLength_of_isOf hid, if_pos hkind]
    rw [identify_of_isOf hid, hleast, if_pos hshort]
  | short32 hkind hshort =>
    have hrange : a.kind.toNat ≤ 16 ∧ a.kind.toNat ∉ [0, 1] := by
      simp only [List.mem_cons, List.not_mem_nil, or_false] at hkind ⊢
      omega
    obtain ⟨id, hid⟩ := exists_isOf hrange.1
    have hleast : id.minLength = 4 := by
      rw [minLength_of_isOf hid, if_neg hrange.2, if_pos hkind]
    rw [identify_of_isOf hid, hleast, if_pos hshort]

/-- An attribute that is not admitted offends. -/
theorem admitted_or_offends (a : Attribute) : a.Admitted ∨ ∃ e, Offends (.ok a) e := by
  by_cases hrange : a.kind.toNat ≤ 16
  · by_cases h16 : a.kind.toNat ∈ [0, 1] → 2 ≤ a.payload.length
    · by_cases h32 : a.kind.toNat ∈ [2, 3, 4, 5, 7] → 4 ≤ a.payload.length
      · exact .inl ⟨hrange, h16, h32⟩
      · rw [Decidable.not_imp_iff_and_not, Nat.not_le] at h32
        exact .inr ⟨_, .short32 h32.1 h32.2⟩
    · rw [Decidable.not_imp_iff_and_not, Nat.not_le] at h16
      exact .inr ⟨_, .short16 h16.1 h16.2⟩
  · exact .inr ⟨_, .outOfRange (Nat.lt_of_not_le hrange)⟩

/-! ## Items in order -/

/-- The table with one more item of a stream taken up. -/
def take (t : AttrTable) : Except Error Attribute → Except Error AttrTable
  | .error e => .error e
  | .ok a => (identify a).map fun id => t.insert id a.payload

/-- Reading a stream is taking up what a strict walk gives, item by item. -/
theorem parse_eq_foldlM (data : Bytes) :
    parse data = (Attribute.StrictCursor.start data).drain.foldlM take empty := by
  rw [drain_eq_split, parse]
  rcases Attribute.split data with ⟨attributes, fault?⟩
  dsimp only
  generalize empty = t
  induction attributes generalizing t with
  | nil => cases fault? <;> rfl
  | cons a rest ih =>
    rw [fill, List.map_cons, List.cons_append, List.foldlM_cons, take]
    cases identify a with
    | error e => rfl
    | ok id => exact ih (t.insert id a.payload)

/-- Behind admitted attributes a table is taken on. -/
theorem exists_foldlM_append {before : List Attribute} (h : ∀ a ∈ before, a.Admitted)
    (t : AttrTable) :
    ∃ t', ∀ items, (before.map .ok ++ items).foldlM take t = items.foldlM take t' := by
  induction before generalizing t with
  | nil => exact ⟨t, fun items => rfl⟩
  | cons a before ih =>
    obtain ⟨id, hid⟩ := exists_identify_of_admitted (h a List.mem_cons_self)
    obtain ⟨t', ht'⟩ := ih (fun b hb => h b (List.mem_cons_of_mem a hb)) (t.insert id a.payload)
    refine ⟨t', fun items => ?_⟩
    rw [← ht' items, List.map_cons, List.cons_append, List.foldlM_cons, take, hid]
    rfl

/-- Admitted attributes make a table. -/
theorem Accepted.exists_parse {attributes : List Attribute} (h : Accepted data attributes) :
    ∃ t, parse data = .ok t := by
  obtain ⟨t, ht⟩ := exists_foldlM_append h.admitted empty
  have hend := ht []
  rw [List.append_nil] at hend
  exact ⟨t, by rw [parse_eq_foldlM, h.items, hend]; rfl⟩

/-- The first item that offends tells the error. -/
theorem Refused.parse_eq {before : List Attribute} (h : Refused data before item e) :
    parse data = .error e := by
  obtain ⟨⟨after, hitems⟩, hadmitted, hoffends⟩ := h
  obtain ⟨t, ht⟩ := exists_foldlM_append hadmitted empty
  rw [parse_eq_foldlM, hitems, ht, List.foldlM_cons]
  cases item with
  | error fault =>
    cases hoffends
    rfl
  | ok a =>
    rw [take, hoffends.identify_eq]
    rfl

/-- Items are admitted attributes, or there is a first among them that offends. -/
theorem all_admitted_or_first_offends (items : List (Except Error Attribute)) :
    (∃ attributes : List Attribute, items = attributes.map .ok ∧ ∀ a ∈ attributes, a.Admitted) ∨
      ∃ (before : List Attribute) (item : Except Error Attribute)
        (after : List (Except Error Attribute)) (e : Error),
          items = before.map .ok ++ item :: after ∧
          (∀ a ∈ before, a.Admitted) ∧ Offends item e := by
  induction items with
  | nil => exact .inl ⟨[], rfl, by simp⟩
  | cons item rest ih =>
    cases item with
    | error e => exact .inr ⟨[], .error e, rest, e, rfl, by simp, .fault⟩
    | ok a =>
      rcases admitted_or_offends a with hadmitted | ⟨e, hoffends⟩
      · rcases ih with ⟨attributes, rfl, hall⟩ | ⟨before, item, after, e, rfl, hall, hoffends⟩
        · exact .inl ⟨a :: attributes, rfl, List.forall_mem_cons.mpr ⟨hadmitted, hall⟩⟩
        · exact .inr ⟨a :: before, item, after, e, rfl,
            List.forall_mem_cons.mpr ⟨hadmitted, hall⟩, hoffends⟩
      · exact .inr ⟨[], .ok a, rest, e, rfl, by simp, hoffends⟩

theorem accepted_or_refused (data : Bytes) :
    (∃ attributes, Accepted data attributes) ∨ ∃ before item e, Refused data before item e := by
  rcases all_admitted_or_first_offends (Attribute.StrictCursor.start data).drain with
    ⟨attributes, hitems, hall⟩ | ⟨before, item, after, e, hitems, hbefore, hoffends⟩
  · exact .inl ⟨attributes, hitems, hall⟩
  · exact .inr ⟨before, item, e, ⟨after, hitems⟩, hbefore, hoffends⟩

/-! ## Slots -/

/-- The latest attribute is the last one of its number. -/
theorem latest_iff {id : AttrId} {attributes : List Attribute} {payload? : Option Bytes} :
    Latest id.index attributes payload? ↔
      payload? = (attributes.filter (Attribute.isOf id)).getLast?.map Attribute.payload := by
  have hnone (rest : List Attribute) :
      rest.filter (Attribute.isOf id) = [] ↔ ∀ a ∈ rest, a.kind.toNat ≠ id.index := by
    rw [List.filter_eq_nil_iff]
    exact forall₂_congr fun a _ => not_congr Attribute.isOf_iff
  constructor
  · intro h
    cases h with
    | absent habsent =>
      rw [(hnone attributes).mpr habsent]
      rfl
    | @present before after a hkind hafter =>
      rw [List.filter_append, List.filter_cons_of_pos (Attribute.isOf_iff.mpr hkind),
        (hnone after).mpr hafter, List.getLast?_concat, Option.map_some]
  · rintro rfl
    cases hlast : (attributes.filter (Attribute.isOf id)).getLast? with
    | none => exact .absent ((hnone attributes).mp (List.getLast?_eq_none_iff.mp hlast))
    | some a =>
      obtain ⟨_, hlast⟩ := List.getLast?_eq_some_iff.mp hlast
      obtain ⟨front, back, rfl, -, hback⟩ := List.filter_eq_append_iff.mp hlast
      obtain ⟨before, after, rfl, -, hof, hafter⟩ := List.filter_eq_cons_iff.mp hback
      rw [← List.append_assoc]
      exact .present (Attribute.isOf_iff.mp hof) ((hnone after).mp hafter)

/-- A table holds the latest attribute of each number in its slot. -/
theorem Accepted.latest_slots {attributes : List Attribute} {t : AttrTable}
    (haccepted : Accepted data attributes) (h : parse data = .ok t) (i : Fin (AttrId.max + 1)) :
    Latest i attributes t.slots[i] := by
  have hlenient : Attribute.lenient data = attributes := by
    have hitems := haccepted.items
    rw [drain_eq_split, (wellFormed_of_parse h).1, Option.map_none, Option.toList_none,
      List.append_nil] at hitems
    exact (List.map_inj_right fun _ _ => Except.ok.inj).mp hitems
  obtain ⟨id, rfl⟩ := exists_index_eq i
  rw [latest_iff, ← hlenient]
  exact get?_of_parse h id

/-- Tables that hold the latest attributes of the same stream are the same. -/
theorem eq_of_latest_slots {attributes : List Attribute} {t t' : AttrTable}
    (h : ∀ i : Fin (AttrId.max + 1), Latest i attributes t.slots[i])
    (h' : ∀ i : Fin (AttrId.max + 1), Latest i attributes t'.slots[i]) : t = t' := by
  have hslots : t.slots = t'.slots := by
    apply Vector.ext
    intro n hn
    obtain ⟨id, hid⟩ := exists_index_eq ⟨n, hn⟩
    have hslot := h id.index
    have hslot' := h' id.index
    rw [latest_iff] at hslot hslot'
    rw [hid] at hslot hslot'
    exact hslot.trans hslot'.symm
  cases t
  cases t'
  exact congrArg AttrTable.mk hslots

/-! ## What is behind an item -/

/-- A stream that is the same as far as an item with something wrong is refused alike. -/
theorem Refused.congr {before : List Attribute} {data' : Bytes} (h : Refused data before item e)
    (hsame : SameUpTo before data data' item) : Refused data' before item e := by
  obtain ⟨⟨after, hitems⟩, hadmitted, hoffends⟩ := h
  refine ⟨?_, hadmitted, hoffends⟩
  have hitem := drain_drop_span hitems
  cases item with
  | error cause =>
    obtain ⟨hlength, hsame⟩ := hsame
    obtain ⟨hstep, -⟩ := drain_eq_error_cons_iff.mp hitem
    have hlength' : (data'.drop (span before)).length = (data.drop (span before)).length := by
      rw [List.length_drop, List.length_drop, hlength]
    have hitem' := drain_eq_error_cons_iff.mpr
      ⟨Attribute.step_malformed_congr hlength' (Bytes.take_drop_congr hsame) hstep, rfl⟩
    have hfront := drain_congr (Bytes.take_congr (Nat.le_add_right ..) hsame) hitems
    rw [hitem'] at hfront
    exact ⟨_, hfront⟩
  | ok a =>
    obtain ⟨rest, hstep, -⟩ := drain_eq_ok_cons_iff.mp hitem
    have hitem' := drain_eq_ok_cons_iff.mpr
      ⟨_, Attribute.step_found_congr (Bytes.take_drop_congr hsame) hstep, rfl⟩
    have hfront := drain_congr (Bytes.take_congr (Nat.le_add_right ..) hsame) hitems
    rw [hitem'] at hfront
    exact ⟨_, hfront⟩

/-! ## Both directions -/

/-- A stream makes a table exactly when all that a strict walk gives are admitted attributes, and
the table holds for each number the payload of the latest attribute, and nothing where there is
none. Otherwise the error is that of the first item that offends, and it stays the same whatever is
behind that item. -/
theorem parse_iff_admitted (data : Bytes) :
    ((∃ t, parse data = .ok t) ↔ ∃ attributes, Accepted data attributes) ∧
    (∀ t, parse data = .ok t ↔ ∃ attributes, Accepted data attributes ∧
      ∀ i : Fin (AttrId.max + 1), Latest i attributes t.slots[i]) ∧
    (∀ e, parse data = .error e ↔ ∃ before item, Refused data before item e) ∧
    ∀ before item e, Refused data before item e →
      ∀ data', SameUpTo before data data' item → parse data' = .error e := by
  -- Reading gives one result, so a stream that makes a table is not refused.
  have haccepted {t : AttrTable} (h : parse data = .ok t) :
      ∃ attributes, Accepted data attributes := by
    rcases accepted_or_refused data with haccepted | ⟨before, item, e, hrefused⟩
    · exact haccepted
    · simp [hrefused.parse_eq] at h
  refine ⟨⟨fun ⟨t, h⟩ => haccepted h, fun ⟨attributes, h⟩ => h.exists_parse⟩,
    fun t => ⟨fun h => ?_, ?_⟩, fun e => ⟨fun h => ?_, ?_⟩, ?_⟩
  · obtain ⟨attributes, hattributes⟩ := haccepted h
    exact ⟨attributes, hattributes, hattributes.latest_slots h⟩
  · rintro ⟨attributes, hattributes, hslots⟩
    obtain ⟨t', h'⟩ := hattributes.exists_parse
    rw [eq_of_latest_slots hslots (hattributes.latest_slots h'), h']
  · rcases accepted_or_refused data with ⟨attributes, hattributes⟩ | ⟨before, item, e', hrefused⟩
    · obtain ⟨t, ht⟩ := hattributes.exists_parse
      simp [ht] at h
    · rw [hrefused.parse_eq, Except.error.injEq] at h
      exact ⟨before, item, h ▸ hrefused⟩
  · rintro ⟨before, item, hrefused⟩
    exact hrefused.parse_eq
  · intro before item e hrefused data' hsame
    exact (hrefused.congr hsame).parse_eq

/-- A first interface number of one byte is refused behind a group with a flag bit, for all that a
second one has two bytes, and whatever is in its place. -/
theorem parse_iff_admitted_short_interface :
    let group : Bytes := [8, 0, 3, 0x80, 7, 0, 0, 0]
    let short : Bytes := [5, 0, 0, 0, 2]
    let fault := Error.invalidAttribute (.tooShort 0 1 2)
    Refused (group ++ short ++ [0, 0, 0, 6, 0, 0, 0, 2, 0]) [⟨3, [7, 0, 0, 0]⟩] (.ok ⟨0, [2]⟩)
        fault ∧
      ∀ tail, parse (group ++ short ++ tail) = .error fault := by
  intro group short fault
  have hrefused : Refused (group ++ short ++ [0, 0, 0, 6, 0, 0, 0, 2, 0]) [⟨3, [7, 0, 0, 0]⟩]
      (.ok ⟨0, [2]⟩) fault := by
    refine ⟨⟨[.ok ⟨0, [2, 0]⟩], ?_⟩, by decide, .short16 (by decide) (by decide)⟩
    rw [drain_eq_split]
    decide +kernel
  obtain ⟨-, -, -, hbehind⟩ := parse_iff_admitted (group ++ short ++ [0, 0, 0, 6, 0, 0, 0, 2, 0])
  exact ⟨hrefused, fun tail => hbehind _ _ _ hrefused _ rfl⟩

end AttrTable
end SampleTap
