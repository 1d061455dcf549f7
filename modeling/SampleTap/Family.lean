import SampleTap.Attribute.Value

/-!
# Families

A generic netlink family has a number, assigned when the kernel registers it, and a set of multicast
groups with names. The controller describes a family as an attribute stream; `Family.parse` reads
such a description. Attributes of other numbers are skipped, of a repeated attribute the last
occurrence counts, and so does the last entry of a repeated group name.
-/

namespace SampleTap

/-- A generic netlink family. -/
structure Family where
  /-- The type of the family's messages. -/
  id : UInt16
  version : UInt8 := 0
  /-- Bytes between the command header and the attributes. -/
  headerSize : UInt32 := 0
  /-- The greatest attribute number. -/
  maxAttr : UInt32 := 0
  /-- The multicast groups by name, each name once. -/
  groups : List (String × UInt32) := []
deriving DecidableEq, Repr

namespace Family

/-! ## Multicast groups -/

/-- The number of a multicast group. -/
def group? (f : Family) (name : String) : Option UInt32 := f.groups.lookup name

/-- `groups` with `name` bound to `id`. -/
def insertGroup (groups : List (String × UInt32)) (name : String) (id : UInt32) :
    List (String × UInt32) :=
  groups.filter (fun entry => entry.1 != name) ++ [(name, id)]

/-- A lookup finds what was inserted last. -/
theorem lookup_insertGroup (groups : List (String × UInt32)) (name name' : String) (id : UInt32) :
    (insertGroup groups name id).lookup name' =
      if name' = name then some id else groups.lookup name' := by
  unfold insertGroup
  induction groups with
  | nil =>
    by_cases h : name' = name
    · simp [h]
    · simp [List.lookup_cons, beq_false_of_ne h, h]
  | cons entry groups ih =>
    obtain ⟨key, value⟩ := entry
    by_cases hk : key = name
    · subst hk
      rw [List.filter_cons, if_neg (by simp), ih, List.lookup_cons]
      by_cases h : name' = key
      · simp [h]
      · simp [beq_false_of_ne h, h]
    · rw [List.filter_cons, if_pos (by simpa using hk), List.cons_append, List.lookup_cons,
        List.lookup_cons, ih]
      by_cases h : name' = key
      · subst h
        simp [hk]
      · simp [beq_false_of_ne h]

/-! ## Attributes of a description -/

/-- The family's number, a sixteen-bit integer. -/
def idAttr : UInt16 := 1

/-- The family's name, a text. -/
def nameAttr : UInt16 := 2

/-- The family's version, a thirty-two-bit integer of which eight bits count. -/
def versionAttr : UInt16 := 3

/-- The size of the family's own header, a thirty-two-bit integer. -/
def headerSizeAttr : UInt16 := 4

/-- The greatest attribute number, a thirty-two-bit integer. -/
def maxAttrAttr : UInt16 := 5

/-- The multicast groups, a stream of entries that are streams in turn. -/
def groupsAttr : UInt16 := 7

/-- In an entry of the multicast groups, the name. -/
def groupNameAttr : UInt16 := 1

/-- In an entry of the multicast groups, the number. -/
def groupIdAttr : UInt16 := 2

/-! ## Reading a description -/

/-- What an entry of the multicast groups holds so far. -/
structure GroupDraft where
  name? : Option String := none
  id? : Option UInt32 := none

/-- Adds one attribute of an entry. -/
def GroupDraft.add (d : GroupDraft) (a : Attribute) : Except Error GroupDraft :=
  if a.kind = groupNameAttr then
    (Attribute.readText a.payload).map fun name => { d with name? := some name }
  else if a.kind = groupIdAttr then
    (Attribute.readU32 a.payload).map fun id => { d with id? := some id }
  else .ok d

/-- Adds one entry to the multicast groups; an entry without a name or a number adds nothing. -/
def addGroup (groups : List (String × UInt32)) (entry : Attribute) :
    Except Error (List (String × UInt32)) := do
  let d ← (Attribute.lenient entry.payload).foldlM GroupDraft.add {}
  match d.name?, d.id? with
  | some name, some id => return insertGroup groups name id
  | _, _ => return groups

/-- The multicast groups that a payload lists. -/
def parseGroups (payload : Bytes) : Except Error (List (String × UInt32)) :=
  (Attribute.lenient payload).foldlM addGroup []

/-- What a description has said so far. -/
structure Draft where
  id? : Option UInt16 := none
  version : UInt8 := 0
  headerSize : UInt32 := 0
  maxAttr : UInt32 := 0
  groups : List (String × UInt32) := []

/-- Adds one attribute of a description. -/
def Draft.add (d : Draft) (a : Attribute) : Except Error Draft :=
  if a.kind = idAttr then
    (Attribute.readU16 a.payload).map fun id => { d with id? := some id }
  else if a.kind = versionAttr then
    (Attribute.readU32 a.payload).map fun version => { d with version := version.toUInt8 }
  else if a.kind = headerSizeAttr then
    (Attribute.readU32 a.payload).map fun size => { d with headerSize := size }
  else if a.kind = maxAttrAttr then
    (Attribute.readU32 a.payload).map fun maxAttr => { d with maxAttr := maxAttr }
  else if a.kind = groupsAttr then
    (parseGroups a.payload).map fun groups => { d with groups := groups }
  else .ok d

/-- The family that a description describes. -/
def parse (data : Bytes) : Except Error Family := do
  let d ← (Attribute.lenient data).foldlM Draft.add {}
  match d.id? with
  | some id => return ⟨id, d.version, d.headerSize, d.maxAttr, d.groups⟩
  | none => .error (.invalidMessage .familyIdMissing)

end Family

end SampleTap
