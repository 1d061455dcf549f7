import SampleTap.Proofs.Attribute.Framing
import SampleTap.Proofs.Bpf

/-!
# What the attribute search finds

The search of a filter program goes by offsets into the packet, and a lenient cursor shortens a
stream. `SearchEnds` says where a search ends, in terms of the attributes that a cursor gives of the
packet's bytes from the start: at the offset of the first one of the kind, or at zero when there is
none. `searchFrom?_ends` says that every search ends so, without a look outside the packet, and
`findAttribute_finds_first` what this comes to for a register.

The two disagree about alignment. A cursor reads headers in place, so inside the packet it gives
nothing from an odd offset on, and the search puts a header together from its bytes. From there it
finds what a cursor gives of a copy of the bytes (`copied`).
-/

namespace SampleTap.Bpf

open Attribute (span headerLength)
open SampleTap.Cursor (Gives gives_nil_iff)

/-- A cursor over a copy of a packet's bytes from an offset on. -/
def copied (packet : Bytes) (offset : Nat) : Attribute.Cursor := .start (packet.drop offset)

/-- Where a search for a kind ends, when `attributes` stand in the packet from `start` on and a
cursor can be set to each offset. -/
inductive SearchEnds (cursorAt : Nat → Attribute.Cursor) (packet : Bytes) (kind : UInt32)
    (start : Nat) (attributes : List Attribute) : Nat → Prop
  /-- There is no attribute of the kind. -/
  | absent : (∀ a ∈ attributes, a.kind.toUInt32 ≠ kind) →
      SearchEnds cursorAt packet kind start attributes 0
  /-- The first attribute of the kind stands at an offset, and all of it is in the packet. -/
  | first {before after : List Attribute} {a : Attribute} {offset : Nat}
      {behind : Attribute.Cursor} : attributes = before ++ a :: after →
      (∀ b ∈ before, b.kind.toUInt32 ≠ kind) → a.kind.toUInt32 = kind →
      offset = start + span before → (cursorAt offset).next? = some (a, behind) →
      offset + a.extent ≤ packet.length → SearchEnds cursorAt packet kind start attributes offset

/-! ## Every search ends -/

/-- A search never looks outside the packet, and ends by the attributes from its start. The cursors
need to be aligned at the attributes that it passes. -/
theorem searchFrom?_ends {cursorAt : Nat → Attribute.Cursor} {packet : Bytes} (kind : UInt32)
    {start : Nat}
    (haligned : ∀ before, cursorAt (start + span before) = copied packet (start + span before)) :
    ∃ found, searchFrom? (.ofBytes packet) kind start = some found ∧
      SearchEnds cursorAt packet kind start (Attribute.lenient (packet.drop start)) found := by
  cases hfind : (Attribute.lenient (packet.drop start)).find? (sought kind) with
  | none =>
    refine ⟨0, searchFrom?_eq_zero hfind, .absent ?_⟩
    intro a ha hkind
    exact List.find?_eq_none.mp hfind a ha (beq_iff_eq.mpr hkind)
  | some a =>
    obtain ⟨hof, before, after, hwalk, hother⟩ := List.find?_eq_some_iff_append.mp hfind
    have hkind : a.kind.toUInt32 = kind := beq_iff_eq.mp hof
    have hbefore : ∀ b ∈ before, b.kind.toUInt32 ≠ kind := by
      intro b hb hsame
      have hnot := hother b hb
      rw [sought, beq_iff_eq.mpr hsame] at hnot
      exact absurd hnot (by decide)
    obtain ⟨rest, hstep⟩ := Attribute.step_span hwalk
    rw [List.drop_drop] at hstep
    have hnext : (cursorAt (start + span before)).next? = some (a, .start rest) := by
      rw [haligned, copied, Attribute.Cursor.next?_start, hstep]
    refine ⟨_, searchFrom?_of_first hwalk hbefore hkind, ?_⟩
    exact .first hwalk hbefore hkind rfl hnext (Attribute.span_add_extent_le hwalk)

/-! ## What the end of a search tells -/

namespace SearchEnds

variable {cursorAt : Nat → Attribute.Cursor} {packet : Bytes} {kind : UInt32} {start found : Nat}
  {attributes : List Attribute}

/-- A search ends inside the packet. -/
theorem le_length (h : SearchEnds cursorAt packet kind start attributes found) :
    found ≤ packet.length := by
  cases h with
  | absent _ => exact Nat.zero_le _
  | first _ _ _ _ _ hinside => omega

/-- Where no header fits, a search ends at zero. -/
theorem eq_zero_of_short (h : SearchEnds cursorAt packet kind start attributes found)
    (hshort : packet.length < start + headerLength) : found = 0 := by
  cases h with
  | absent _ => rfl
  | @first _ _ a _ _ _ _ _ hoffset _ hinside =>
    have hheader : headerLength ≤ a.extent := Nat.le_add_right ..
    omega

/-- Behind the first byte of a packet, zero is not the offset of an attribute. -/
theorem ne_zero_iff (h : SearchEnds cursorAt packet kind start attributes found)
    (hstart : 0 < start) : found ≠ 0 ↔ ∃ a ∈ attributes, a.kind.toUInt32 = kind := by
  cases h with
  | absent hnone =>
    refine iff_of_false (fun hne => hne rfl) ?_
    rintro ⟨a, ha, hkind⟩
    exact hnone a ha hkind
  | @first before after a _ _ hattributes _ hkind hoffset _ _ =>
    refine iff_of_true (by omega) ⟨a, ?_, hkind⟩
    rw [hattributes]
    exact List.mem_append_cons_self

end SearchEnds

/-! ## The search of a filter program -/

/-- Whether a search for a kind from `start` ends without a look outside the packet, at the offset
of the first attribute of the kind among those that a cursor gives from there, or at zero when there
is none. It ends at zero where no header fits, and behind the first byte of the packet only then or
when there is no such attribute. -/
def FindsFirst (cursorAt : Nat → Attribute.Cursor) (packet : Bytes) (start kind : UInt32) : Prop :=
  ∃ attributes found,
    Gives Attribute.Cursor.next? (cursorAt start.toNat) attributes ∧
    searchFrom? (.ofBytes packet) kind start.toNat = some found ∧
    (findAttribute (.ofBytes packet) start kind).toNat = found ∧
    SearchEnds cursorAt packet kind start.toNat attributes found ∧
    (packet.length < start.toNat + headerLength → found = 0) ∧
    (0 < start.toNat → (found ≠ 0 ↔ ∃ a ∈ attributes, a.kind.toUInt32 = kind))

/-- A search finds the first attribute when the cursors are aligned at the attributes that it
passes. -/
theorem findsFirst_of_aligned {cursorAt : Nat → Attribute.Cursor} {packet : Bytes}
    {start : UInt32} (kind : UInt32) (hsize : packet.length < 2 ^ 32)
    (haligned : ∀ before,
      cursorAt (start.toNat + span before) = copied packet (start.toNat + span before)) :
    FindsFirst cursorAt packet start kind := by
  obtain ⟨found, hfound, hends⟩ := searchFrom?_ends kind haligned
  have hregister : (findAttribute (.ofBytes packet) start kind).toNat = found := by
    rw [findAttribute_of_searchFrom? hfound]
    exact UInt32.toNat_ofNat_of_lt' (Nat.lt_of_le_of_lt hends.le_length hsize)
  have hgives : Gives Attribute.Cursor.next? (cursorAt start.toNat)
      (Attribute.lenient (packet.drop start.toNat)) := by
    rw [show cursorAt start.toNat = copied packet start.toNat from haligned []]
    exact Attribute.Cursor.gives_lenient _
  exact ⟨_, found, hgives, hfound, hregister, hends, hends.eq_zero_of_short, hends.ne_zero_iff⟩

/-- In a packet whose offsets fit a register, a search from an even offset finds the first attribute
that a cursor gives inside the packet, and from any offset the first one that a cursor gives of a
copy of the bytes. -/
theorem findAttribute_finds_first (start kind : UInt32) {packet : Bytes}
    (hsize : packet.length < 2 ^ 32) :
    (start.toNat % 2 = 0 → FindsFirst (.within packet) packet start kind) ∧
      FindsFirst (copied packet) packet start kind := by
  refine ⟨fun heven => findsFirst_of_aligned kind hsize fun before => ?_,
    findsFirst_of_aligned kind hsize fun _ => rfl⟩
  -- Padded attributes keep the offset even.
  have hspan := Attribute.span_mod_four before
  exact Attribute.Cursor.within_of_even packet (by omega)

/-- A padded attribute of two bytes in front of the one that is searched for. -/
theorem findAttribute_finds_first_behind_padding :
    let packet : Bytes := List.replicate 8 0 ++ [6, 0, 1, 0, 0xaa, 0xbb, 0, 0] ++
      [8, 0, 3, 0x80, 9, 0, 0, 0]
    packet.length < 2 ^ 32 ∧ findAttribute (.ofBytes packet) 8 3 = 16 ∧
      FindsFirst (.within packet) packet 8 3 ∧ FindsFirst (copied packet) packet 8 3 :=
  have hsize := by decide
  have hfinds := findAttribute_finds_first 8 3 hsize
  ⟨hsize, by decide +kernel, hfinds.1 rfl, hfinds.2⟩

/-- From an odd offset a search finds an attribute where a cursor inside the packet gives none. -/
theorem findAttribute_unaligned :
    let packet : Bytes := [0, 8, 0, 3, 0, 7, 0, 0, 0]
    packet.length < 2 ^ 32 ∧ Gives Attribute.Cursor.next? (.within packet 1) [] ∧
      findAttribute (.ofBytes packet) 1 3 = 1 ∧ ¬ FindsFirst (.within packet) packet 1 3 := by
  intro packet
  have hnone : Gives Attribute.Cursor.next? (.within packet 1) [] :=
    gives_nil_iff.mpr (Attribute.Cursor.next?_within_of_odd packet rfl)
  have hfound : findAttribute (.ofBytes packet) 1 3 = 1 := by decide +kernel
  refine ⟨by decide, hnone, hfound, ?_⟩
  rintro ⟨attributes, found, hgives, -, hregister, -, -, hnonzero⟩
  obtain rfl := hgives.unique hnone
  rw [hfound] at hregister
  obtain ⟨a, ha, -⟩ := (hnonzero (by decide)).mp (by rw [← hregister]; decide)
  exact absurd ha List.not_mem_nil

end SampleTap.Bpf
