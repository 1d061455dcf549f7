import Mathlib.Data.List.Induction
import SampleTap.Family
import SampleTap.Proofs.Message.Builder
import SampleTap.Proofs.Text.Utf8

/-!
# Families that were described

A description of a family is read back, however its attributes are arranged. What a description is
to say is a `Family.Description`. It is put into a builder as a list of `Family.Part`s: the fields
of the family, each once and in any order, with attributes of other numbers in between.

* `parseGroups_listed` reads the multicast groups, entry by entry (`GroupEntry.addGroup_eq`), and
  `lookup_foldl_insertEntry` says that of entries with one name the latest counts.
* `Draft.add_attribute` reads one attribute of a description, and `Description.foldl_tellTo` says
  that neither the order of the fields matters nor what is between them.
* `parse_finish` is the round trip from the builder's finished message.
-/

namespace SampleTap
namespace Family

open Attribute (Content Forest kindMask)

/-! ## Descriptions -/

/-- Whether a text has no zero character, so that a zero byte can end it. -/
def NulFree (text : String) : Prop := ∀ c ∈ text.toList, c.toNat ≠ 0

instance : DecidablePred NulFree := fun text =>
  List.decidableBAll (fun c : Char => c.toNat ≠ 0) text.toList

/-- An entry of the multicast groups in a description. -/
structure GroupEntry where
  /-- The entry's own type, which tells nothing. -/
  type : UInt16
  name : String
  id : UInt32
  /-- Whether the number stands in front of the name. -/
  idFirst : Bool
deriving DecidableEq, Repr

/-- What a description is to say. -/
structure Description where
  id : UInt16
  version : UInt8
  headerSize : UInt32
  maxAttr : UInt32
  entries : List GroupEntry
deriving DecidableEq, Repr

/-- The fields of a family that a description tells. -/
inductive Field
  | id
  | version
  | headerSize
  | maxAttr
  | groups
deriving DecidableEq, Repr

/-- Every field, once. -/
def Field.all : List Field := [id, version, headerSize, maxAttr, groups]

/-- The number of a field's attribute. -/
def Field.kind : Field → UInt16
  | id => idAttr
  | version => versionAttr
  | headerSize => headerSizeAttr
  | maxAttr => maxAttrAttr
  | groups => groupsAttr

/-- An attribute of a description: a field of the family, or an attribute beside the fields. -/
inductive Part
  | field (f : Field)
  | leaf (type : UInt16) (content : Content)
  | nest (type : UInt16) (children : Forest)
deriving DecidableEq, Repr

namespace Part

/-- The field that an attribute tells. -/
def field? : Part → Option Field
  | field f => some f
  | leaf .. => none
  | nest .. => none

/-- Whether an attribute beside the fields has a number that is none of theirs. -/
def IsApart : Part → Prop
  | field _ => True
  | leaf type _ => ∀ f ∈ Field.all, type &&& kindMask ≠ f.kind
  | nest type _ => ∀ f ∈ Field.all, type &&& kindMask ≠ f.kind

instance decidableIsApart : DecidablePred IsApart
  | field _ => inferInstanceAs (Decidable True)
  | leaf type _ => inferInstanceAs (Decidable (∀ f ∈ Field.all, type &&& kindMask ≠ f.kind))
  | nest type _ => inferInstanceAs (Decidable (∀ f ∈ Field.all, type &&& kindMask ≠ f.kind))

end Part

/-- Whether attributes are those of a description: each field once, in any order, and in between
attributes of other numbers. -/
structure Arranged (parts : List Part) : Prop where
  fields : (parts.filterMap Part.field?).Perm Field.all
  apart : ∀ p ∈ parts, p.IsApart

/-- The attributes of an entry. -/
def GroupEntry.forest (e : GroupEntry) : Forest :=
  if e.idFirst then .leaf groupIdAttr (.word32 e.id) (.leaf groupNameAttr (.text e.name) .nil)
  else .leaf groupNameAttr (.text e.name) (.leaf groupIdAttr (.word32 e.id) .nil)

/-- The entries of the multicast groups, each a nest. -/
def listed : List GroupEntry → Forest
  | [] => .nil
  | e :: rest => .nest e.type e.forest (listed rest)

/-- The attribute of a field in front of others. -/
def Description.tell (d : Description) (rest : Forest) : Field → Forest
  | .id => .leaf idAttr (.word16 d.id) rest
  | .version => .leaf versionAttr (.word32 d.version.toUInt32) rest
  | .headerSize => .leaf headerSizeAttr (.word32 d.headerSize) rest
  | .maxAttr => .leaf maxAttrAttr (.word32 d.maxAttr) rest
  | .groups => .nest groupsAttr (listed d.entries) rest

/-- The attributes of a description. -/
def Description.forest (d : Description) : List Part → Forest
  | [] => .nil
  | .field f :: rest => d.tell (d.forest rest) f
  | .leaf type content :: rest => .leaf type content (d.forest rest)
  | .nest type children :: rest => .nest type children (d.forest rest)

/-! ## Folds that succeed -/

/-- A fold in which no step fails is a fold of the steps' results. -/
theorem foldlM_eq_ok {σ α : Type} {step : σ → α → Except Error σ} {next : σ → α → σ}
    {items : List α} (h : ∀ s, ∀ a ∈ items, step s a = .ok (next s a)) (s : σ) :
    items.foldlM step s = .ok (items.foldl next s) := by
  induction items generalizing s with
  | nil => rfl
  | cons a rest ih =>
    obtain ⟨hfirst, hrest⟩ : (∀ s, step s a = .ok (next s a)) ∧
        ∀ s, ∀ b ∈ rest, step s b = .ok (next s b) :=
      ⟨fun s => h s a List.mem_cons_self, fun s b hb => h s b (List.mem_cons_of_mem a hb)⟩
    rw [List.foldlM_cons, hfirst]
    exact ih hrest (next s a)

/-! ## Integers -/

theorem readU16_ofWord16 (w : UInt16) : Attribute.readU16 (Bytes.ofWord16 w) = .ok w := by
  have hread := Bytes.word16?_ofWord16_append w []
  rw [List.append_nil] at hread
  rw [Attribute.readU16, hread]
  rfl

theorem readU32_ofWord32 (w : UInt32) : Attribute.readU32 (Bytes.ofWord32 w) = .ok w := by
  have hread := Bytes.word32?_ofWord32_append w []
  rw [List.append_nil] at hread
  rw [Attribute.readU32, hread]
  rfl

/-! ## Multicast groups -/

/-- The groups with an entry's group among them. -/
def insertEntry (groups : List (String × UInt32)) (e : GroupEntry) : List (String × UInt32) :=
  insertGroup groups e.name e.id

/-- The name of a group is read back if it has no null character. -/
theorem GroupDraft.add_name (draft : GroupDraft) {name : String} (h : NulFree name) :
    draft.add ⟨groupNameAttr &&& kindMask, (Content.text name).payload⟩ =
      .ok { draft with name? := some name } := by
  have hkind : groupNameAttr &&& kindMask = groupNameAttr := by decide
  have hread : Attribute.readText (Content.text name).payload = .ok name :=
    Attribute.readText_terminated h
  rw [add, if_pos hkind, hread]
  rfl

theorem GroupDraft.add_id (draft : GroupDraft) (id : UInt32) :
    draft.add ⟨groupIdAttr &&& kindMask, (Content.word32 id).payload⟩ =
      .ok { draft with id? := some id } := by
  have hother : groupIdAttr &&& kindMask ≠ groupNameAttr := by decide
  have hkind : groupIdAttr &&& kindMask = groupIdAttr := by decide
  have hread : Attribute.readU32 (Content.word32 id).payload = .ok id := readU32_ofWord32 id
  rw [add, if_neg hother, if_pos hkind, hread]
  rfl

/-- An entry adds its group, whichever of its two attributes stands in front. -/
theorem GroupEntry.addGroup_eq {e : GroupEntry} (hfits : e.forest.Fits)
    (hname : NulFree e.name) (groups : List (String × UInt32)) (kind : UInt16) :
    addGroup groups ⟨kind, e.forest.encode⟩ = .ok (insertEntry groups e) := by
  have hdraft : e.forest.attributes.foldlM GroupDraft.add {} =
      .ok { name? := some e.name, id? := some e.id } := by
    unfold GroupEntry.forest
    split
    all_goals
      simp only [Forest.attributes, List.foldlM_cons, GroupDraft.add_id,
        GroupDraft.add_name _ hname, bind, Except.bind]
      rfl
  rw [addGroup, Forest.lenient_encode hfits, hdraft]
  rfl

theorem attributes_listed (entries : List GroupEntry) :
    (listed entries).attributes =
      entries.map fun e => ⟨e.type &&& kindMask, e.forest.encode⟩ := by
  induction entries with
  | nil => rfl
  | cons e rest ih => rw [listed, Forest.attributes, ih, List.map_cons]

theorem fits_of_mem_listed {entries : List GroupEntry} (h : (listed entries).Fits) :
    ∀ e ∈ entries, e.forest.Fits := by
  induction entries with
  | nil => exact nofun
  | cons e rest ih =>
    obtain ⟨-, hfirst, hrest⟩ := h
    exact List.forall_mem_cons.mpr ⟨hfirst, ih hrest⟩

/-- The entries of a description are added in order. -/
theorem parseGroups_listed {entries : List GroupEntry} (hfits : (listed entries).Fits)
    (hnames : ∀ e ∈ entries, NulFree e.name) :
    parseGroups (listed entries).encode = .ok (entries.foldl insertEntry []) := by
  rw [parseGroups, Forest.lenient_encode hfits, attributes_listed, List.foldlM_map]
  apply foldlM_eq_ok
  intro groups e he
  exact GroupEntry.addGroup_eq (fits_of_mem_listed hfits e he) (hnames e he) groups _

/-- Of entries with one name the latest counts. -/
theorem lookup_foldl_insertEntry (entries : List GroupEntry) (name : String) :
    (entries.foldl insertEntry []).lookup name =
      (entries.reverse.find? fun e => e.name == name).map (·.id) := by
  -- The induction takes the latest entry off first.
  induction entries using List.reverseRec with
  | nil => rfl
  | append_singleton entries e ih =>
    rw [List.foldl_append, List.foldl_cons, List.foldl_nil, insertEntry, lookup_insertGroup, ih,
      List.reverse_append, List.reverse_singleton, List.singleton_append, List.find?_cons]
    by_cases hname : name = e.name
    · rw [if_pos hname, hname, beq_self_eq_true]
      rfl
    · have hother : (e.name == name) = false := by
        rw [beq_eq_false_iff_ne]
        exact Ne.symm hname
      rw [if_neg hname, hother]

/-- A group that is listed again takes the place of the one of its name. -/
theorem nodup_foldl_insertEntry (entries : List GroupEntry) :
    ((entries.foldl insertEntry []).map Prod.fst).Nodup := by
  induction entries using List.reverseRec with
  | nil => exact List.nodup_nil
  | append_singleton entries e ih =>
    let groups := entries.foldl insertEntry []
    have hkept : ((groups.filter fun entry => entry.1 != e.name).map Prod.fst).Sublist
        (groups.map Prod.fst) := List.filter_sublist.map Prod.fst
    have hapart : e.name ∉ (groups.filter fun entry => entry.1 != e.name).map Prod.fst := by
      intro hmem
      obtain ⟨entry, hentry, hname⟩ := List.mem_map.mp hmem
      exact bne_iff_ne.mp (List.mem_filter.mp hentry).2 hname
    rw [List.foldl_append, List.foldl_cons, List.foldl_nil, insertEntry, insertGroup,
      List.map_append, List.map_singleton, List.nodup_append]
    refine ⟨hkept.nodup ih, List.pairwise_singleton _ _, ?_⟩
    intro name hmem name' hname' heq
    rw [heq, List.mem_singleton.mp hname'] at hmem
    exact hapart hmem

/-! ## The fields of a description -/

/-- What a description has said when it has told a field. -/
def Description.set (d : Description) (draft : Draft) : Field → Draft
  | .id => { draft with id? := some d.id }
  | .version => { draft with version := d.version }
  | .headerSize => { draft with headerSize := d.headerSize }
  | .maxAttr => { draft with maxAttr := d.maxAttr }
  | .groups => { draft with groups := d.entries.foldl insertEntry [] }

/-- The attribute that a part of a description is. -/
def Description.attribute (d : Description) : Part → Attribute
  | .field .id => ⟨idAttr &&& kindMask, (Content.word16 d.id).payload⟩
  | .field .version => ⟨versionAttr &&& kindMask, (Content.word32 d.version.toUInt32).payload⟩
  | .field .headerSize => ⟨headerSizeAttr &&& kindMask, (Content.word32 d.headerSize).payload⟩
  | .field .maxAttr => ⟨maxAttrAttr &&& kindMask, (Content.word32 d.maxAttr).payload⟩
  | .field .groups => ⟨groupsAttr &&& kindMask, (listed d.entries).encode⟩
  | .leaf type content => ⟨type &&& kindMask, content.payload⟩
  | .nest type children => ⟨type &&& kindMask, children.encode⟩

theorem Description.attributes_forest (d : Description) (parts : List Part) :
    (d.forest parts).attributes = parts.map d.attribute := by
  induction parts with
  | nil => rfl
  | cons p rest ih =>
    rw [List.map_cons, ← ih]
    match p with
    | .field f => cases f <;> rfl
    | .leaf .. => rfl
    | .nest .. => rfl

/-- The groups of a description fit when the description does, as it has them somewhere. -/
theorem Description.fits_listed {d : Description} {parts : List Part}
    (h : (d.forest parts).Fits) (hmem : Part.field .groups ∈ parts) : (listed d.entries).Fits := by
  induction parts with
  | nil => exact absurd hmem List.not_mem_nil
  | cons p rest ih =>
    match p, h with
    | .field .groups, ⟨_, hlisted, _⟩ => exact hlisted
    | .field .id, ⟨_, hrest⟩
    | .field .version, ⟨_, hrest⟩
    | .field .headerSize, ⟨_, hrest⟩
    | .field .maxAttr, ⟨_, hrest⟩
    | .leaf .., ⟨_, hrest⟩
    | .nest .., ⟨_, _, hrest⟩ => exact ih hrest (by simpa using hmem)

/-- An attribute of a number that no field has adds nothing. -/
theorem Draft.add_other (draft : Draft) {a : Attribute} (h : ∀ f ∈ Field.all, a.kind ≠ f.kind) :
    draft.add a = .ok draft := by
  have hid : a.kind ≠ idAttr := h .id (by decide)
  have hversion : a.kind ≠ versionAttr := h .version (by decide)
  have hheaderSize : a.kind ≠ headerSizeAttr := h .headerSize (by decide)
  have hmaxAttr : a.kind ≠ maxAttrAttr := h .maxAttr (by decide)
  have hgroups : a.kind ≠ groupsAttr := h .groups (by decide)
  rw [add, if_neg hid, if_neg hversion, if_neg hheaderSize, if_neg hmaxAttr, if_neg hgroups]

theorem Description.kind_attribute (d : Description) (f : Field) :
    (d.attribute (.field f)).kind = f.kind := by
  cases f <;> rfl

/-- A field's attribute sets what the description says of it. -/
theorem Draft.add_field {d : Description} (hfits : (listed d.entries).Fits)
    (hnames : ∀ e ∈ d.entries, NulFree e.name) (draft : Draft) (f : Field) :
    draft.add (d.attribute (.field f)) = .ok (d.set draft f) := by
  rw [add, d.kind_attribute]
  match f with
  | .id =>
    have hread : Attribute.readU16 (d.attribute (.field .id)).payload = .ok d.id :=
      readU16_ofWord16 d.id
    rw [if_pos (by decide), hread]
    rfl
  | .version =>
    have hread : Attribute.readU32 (d.attribute (.field .version)).payload =
        .ok d.version.toUInt32 := readU32_ofWord32 d.version.toUInt32
    rw [if_neg (by decide), if_pos (by decide), hread, Except.map, UInt8.toUInt8_toUInt32]
    rfl
  | .headerSize =>
    have hread : Attribute.readU32 (d.attribute (.field .headerSize)).payload =
        .ok d.headerSize := readU32_ofWord32 d.headerSize
    rw [if_neg (by decide), if_neg (by decide), if_pos (by decide), hread]
    rfl
  | .maxAttr =>
    have hread : Attribute.readU32 (d.attribute (.field .maxAttr)).payload = .ok d.maxAttr :=
      readU32_ofWord32 d.maxAttr
    rw [if_neg (by decide), if_neg (by decide), if_neg (by decide), if_pos (by decide), hread]
    rfl
  | .groups =>
    have hread : parseGroups (d.attribute (.field .groups)).payload =
        .ok (d.entries.foldl insertEntry []) := parseGroups_listed hfits hnames
    rw [if_neg (by decide), if_neg (by decide), if_neg (by decide), if_neg (by decide),
      if_pos (by decide), hread]
    rfl

/-- What a part of a description does to what was said so far. -/
def Description.tellTo (d : Description) (draft : Draft) : Part → Draft
  | .field f => d.set draft f
  | .leaf .. => draft
  | .nest .. => draft

/-- Reading one part of a description tells the draft what that part says, and a part that is apart
from the fields tells it nothing. -/
theorem Draft.add_attribute {d : Description} (hfits : (listed d.entries).Fits)
    (hnames : ∀ e ∈ d.entries, NulFree e.name) (draft : Draft) {p : Part}
    (hapart : p.IsApart) : draft.add (d.attribute p) = .ok (d.tellTo draft p) := by
  match p with
  | .field f => exact draft.add_field hfits hnames f
  | .leaf .. => exact draft.add_other hapart
  | .nest .. => exact draft.add_other hapart

/-! ## Whole descriptions -/

/-- Different fields are set in either order. -/
theorem Description.set_comm (d : Description) (draft : Draft) (f g : Field) :
    d.set (d.set draft f) g = d.set (d.set draft g) f := by
  cases f <;> cases g <;> rfl

/-- The draft that a description fills. -/
def Description.draft (d : Description) : Draft :=
  ⟨some d.id, d.version, d.headerSize, d.maxAttr, d.entries.foldl insertEntry []⟩

/-- Neither the order of the fields matters nor what is between them. -/
theorem Description.foldl_tellTo (d : Description) {parts : List Part} (h : Arranged parts) :
    parts.foldl d.tellTo {} = d.draft := by
  have hfields : (parts.filterMap Part.field?).foldl d.set {} = parts.foldl d.tellTo {} := by
    rw [List.foldl_filterMap]
    congr
    funext draft p
    cases p <;> rfl
  rw [← hfields, h.fields.foldl_eq' fun f _ g _ draft => d.set_comm draft f g]
  rfl

theorem Arranged.groups_mem {parts : List Part} (h : Arranged parts) :
    Part.field .groups ∈ parts := by
  have hmem : Field.groups ∈ parts.filterMap Part.field? := h.fields.mem_iff.mpr (by decide)
  obtain ⟨p, hp, hfield⟩ := List.mem_filterMap.mp hmem
  match p, hfield with
  | .field f, hfield =>
    rw [Option.some.inj hfield] at hp
    exact hp

/-- Whether a family is what a description says, and nothing else. -/
structure IsDescribedBy (f : Family) (d : Description) : Prop where
  id : f.id = d.id
  version : f.version = d.version
  headerSize : f.headerSize = d.headerSize
  maxAttr : f.maxAttr = d.maxAttr
  /-- Every name has one group. -/
  nodup : (f.groups.map Prod.fst).Nodup
  /-- It is the group of the latest entry with the name, and without an entry there is none. -/
  group : ∀ name : String, f.group? name = (d.entries.reverse.find? fun e => e.name == name).map
    GroupEntry.id

/-- A description is read back from its parts in any order. -/
theorem parse_encode {d : Description} {parts : List Part} (hparts : Arranged parts)
    (hnames : ∀ e ∈ d.entries, NulFree e.name)
    (hfits : (d.forest parts).Fits) :
    ∃ f, parse (d.forest parts).encode = .ok f ∧ f.IsDescribedBy d := by
  have hlisted := Description.fits_listed hfits hparts.groups_mem
  have hdraft : (d.forest parts).attributes.foldlM Draft.add {} = .ok d.draft := by
    rw [d.attributes_forest, List.foldlM_map, ← d.foldl_tellTo hparts]
    apply foldlM_eq_ok
    intro draft p hp
    exact draft.add_attribute hlisted hnames (hparts.apart p hp)
  let f : Family := ⟨d.id, d.version, d.headerSize, d.maxAttr, d.entries.foldl insertEntry []⟩
  refine ⟨f, ?_, rfl, rfl, rfl, rfl, ?_, ?_⟩
  · rw [parse, Forest.lenient_encode hfits, hdraft]
    rfl
  · exact nodup_foldl_insertEntry d.entries
  · exact lookup_foldl_insertEntry d.entries

/-- A description that a builder was given is read back from the finished message, behind what the
builder held before: with each field once and in any order, with attributes of other numbers in
between, and with a group's name and its number in either order. -/
theorem parse_finish {d : Description} {parts : List Part} {b : MessageBuilder}
    (haligned : b.body.length % 4 = 0) (hparts : Arranged parts)
    (hnames : ∀ e ∈ d.entries, NulFree e.name)
    (hfits : (d.forest parts).Fits) :
    ∃ f, parse (((d.forest parts).addTo b).finish.drop (Message.headerLength + b.body.length)) =
      .ok f ∧ f.IsDescribedBy d := by
  have hbehind : ((d.forest parts).addTo b).finish.drop (Message.headerLength + b.body.length) =
      (d.forest parts).encode := by
    rw [Forest.addTo_eq _ haligned, MessageBuilder.finish, ← List.drop_drop,
      List.drop_left' (Message.Header.length_encode _)]
    exact List.drop_left
  rw [hbehind]
  exact parse_encode hparts hnames hfits

/-- A family with two entries of one name, described with its fields out of order. -/
def scattered : Description where
  id := 0x1d
  version := 1
  headerSize := 0
  maxAttr := 16
  entries := [⟨1, "config", 9, true⟩, ⟨2, "packets", 10, false⟩, ⟨3, "config", 11, false⟩]

/-- The parts of that description, of which two are no field. -/
def scatteredParts : List Part :=
  [.field .groups, .leaf nameAttr (.text "psample"), .field .maxAttr, .field .version,
    .nest 6 (.leaf 1 (.word32 1) .nil), .field .id, .field .headerSize]

theorem parse_finish_scattered :
    let b : MessageBuilder := { type := 16, flags := 0 }
    Arranged scatteredParts ∧ (scattered.forest scatteredParts).Fits ∧
      ∃ f, parse (((scattered.forest scatteredParts).addTo b).finish.drop Message.headerLength) =
        .ok f ∧ f.IsDescribedBy scattered := by
  intro b
  have harranged : Arranged scatteredParts := ⟨by decide, by decide⟩
  have hfits : (scattered.forest scatteredParts).Fits := by decide +kernel
  have hnames : ∀ e ∈ scattered.entries, NulFree e.name := by decide
  exact ⟨harranged, hfits, parse_finish (b := b) rfl harranged hnames hfits⟩

end Family
end SampleTap
