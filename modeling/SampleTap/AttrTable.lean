import SampleTap.Attribute.Value

/-!
# Attribute tables

The attributes of one message of the sampling family, by identifier. A table is read strictly: a
malformed stream, a number outside the family and a payload below its type's size fail the whole
message, whichever comes first. Of a repeated attribute the last occurrence counts
(`AttrTable.get?_insert`).
-/

namespace SampleTap

/-- The attributes of one message. -/
structure AttrTable where
  /-- A payload for each attribute that is present. -/
  slots : Vector (Option Bytes) (AttrId.max + 1)
deriving DecidableEq, Repr

namespace AttrTable

/-- The table without attributes. -/
def empty : AttrTable := ⟨Vector.replicate _ none⟩

/-- The payload of an attribute. -/
def get? (t : AttrTable) (id : AttrId) : Option Bytes := t.slots[id.index]

/-- The table with an attribute set to a payload. -/
def insert (t : AttrTable) (id : AttrId) (payload : Bytes) : AttrTable :=
  ⟨t.slots.set id.index (some payload)⟩

theorem index_inj {id id' : AttrId} : (id.index : Nat) = id'.index ↔ id = id' := by
  constructor
  · intro h
    have := AttrId.ofNat?_index id
    rw [h, AttrId.ofNat?_index] at this
    exact (Option.some.inj this).symm
  · rintro rfl
    rfl

@[simp] theorem get?_empty (id : AttrId) : empty.get? id = none := by
  simp [empty, get?]

theorem get?_insert (t : AttrTable) (id id' : AttrId) (payload : Bytes) :
    (t.insert id payload).get? id' = if id = id' then some payload else t.get? id' := by
  simp only [get?, insert, Fin.getElem_fin, Vector.getElem_set, index_inj]

/-! ## Reading a stream -/

/-- The identifier of an attribute that a table takes. -/
def identify (a : Attribute) : Except Error AttrId :=
  match AttrId.ofNat? a.kind.toNat with
  | none => .error (.invalidAttribute (.outOfRange a.kind))
  | some id =>
    if a.payload.length < id.minLength then
      .error (.invalidAttribute (.tooShort a.kind a.payload.length id.minLength))
    else .ok id

/-- Adds attributes in order; `fault?` is what follows the last of them. -/
def fill (fault? : Option Error) : AttrTable → List Attribute → Except Error AttrTable
  | t, [] =>
    match fault? with
    | some fault => .error fault
    | none => .ok t
  | t, a :: rest =>
    match identify a with
    | .error e => .error e
    | .ok id => fill fault? (t.insert id a.payload) rest

/-- The table of an attribute stream. -/
def parse (data : Bytes) : Except Error AttrTable :=
  let (attributes, fault?) := Attribute.split data
  fill fault? empty attributes

/-! ## Reading a table -/

/-- Whether an attribute is present. -/
def contains (t : AttrTable) (id : AttrId) : Bool := (t.get? id).isSome

/-- The value of a sixteen-bit attribute that is present and long enough. -/
def u16? (t : AttrTable) (id : AttrId) : Option UInt16 := (t.get? id).bind Bytes.word16?

/-- The value of a thirty-two-bit attribute that is present and long enough. -/
def u32? (t : AttrTable) (id : AttrId) : Option UInt32 := (t.get? id).bind Bytes.word32?

/-- The value of a sixty-four-bit attribute that is present and long enough. -/
def u64? (t : AttrTable) (id : AttrId) : Option UInt64 := (t.get? id).bind Bytes.word64?

/-- The number of attributes that are present. -/
def size (t : AttrTable) : Nat := AttrId.all.countP t.contains

/-- Whether no attribute is present. -/
def isEmpty (t : AttrTable) : Bool := t.size == 0

end AttrTable

end SampleTap
