import Mathlib.Tactic.SplitIfs
import SampleTap.Proofs.Text.Json
import SampleTap.Report

/-!
# Lines of reports

The report of an event is one line in either format: it ends with the only line break in it
(`isLine_eventLine`). JSON is so for every event, since all words in it stand between quotes as they
are (`isPlain_eventJson`). The plain text also shows names of interfaces, which then must have no
line break themselves.
-/

namespace SampleTap

/-! ## Texts without line breaks -/

/-- Whether a text has no line break. -/
def Unbroken (text : String) : Prop := '\n' ∉ text.toList

instance (text : String) : Decidable (Unbroken text) :=
  inferInstanceAs (Decidable ('\n' ∉ text.toList))

theorem unbroken_append {text text' : String} :
    Unbroken (text ++ text') ↔ Unbroken text ∧ Unbroken text' := by
  rw [Unbroken, String.toList_append, List.mem_append, not_or]
  rfl

theorem unbroken_toString (n : Nat) : Unbroken (toString n) := by
  show '\n' ∉ (String.ofList (Nat.toDigits 10 n)).toList
  rw [String.toList_ofList]
  intro h
  exact absurd (Nat.isDigit_of_mem_toDigits (by decide) (by decide) h) (by decide)

/-- Texts without line breaks can be joined by a separator without one. -/
theorem unbroken_intercalate {separator : String} (hseparator : Unbroken separator)
    {texts : List String} (h : ∀ text ∈ texts, Unbroken text) :
    Unbroken (separator.intercalate texts) := by
  induction texts with
  | nil =>
    rw [String.intercalate_nil]
    decide
  | cons text rest ih =>
    obtain ⟨htext, hrest⟩ := List.forall_mem_cons.mp h
    cases rest with
    | nil => rwa [String.intercalate_singleton]
    | cons text' rest =>
      rw [String.intercalate_cons_cons, unbroken_append, unbroken_append]
      exact ⟨⟨htext, hseparator⟩, ih hrest⟩

/-- Hexadecimal digits have no line break among them. -/
theorem unbroken_hex (data : Bytes) : Unbroken (Bytes.hex data) := by
  have hdigit : ∀ n < 16, Bytes.hexDigit n ≠ '\n' := by decide
  rw [Unbroken, Bytes.hex, String.toList_ofList, List.mem_flatMap]
  rintro ⟨b, -, hb⟩
  have hhigh : b.toNat / 16 < 16 := Nat.div_lt_of_lt_mul b.toNat_lt
  have hlow : b.toNat % 16 < 16 := Nat.mod_lt _ (by decide)
  rcases List.mem_cons.mp hb with hsame | hb
  · exact hdigit _ hhigh hsame.symm
  · exact hdigit _ hlow (List.mem_singleton.mp hb).symm

/-! ## Bytes read as text -/

namespace Utf8

/-- Only code point 10 is the line break. What is no code point is read as another character. -/
theorem eq_of_ofNat_eq_lineBreak {n : Nat} (h : Char.ofNat n = '\n') : n = 10 := by
  by_cases hvalid : n.isValidChar
  · rw [Char.ofNat, dif_pos hvalid] at h
    exact congrArg Char.toNat h
  · rw [Char.ofNat, dif_neg hvalid] at h
    exact absurd h (by decide)

/-- Whether the bytes that are owed to a character can only make one behind the control characters:
each is a continuation byte, and the bits so far are enough with the next. -/
def OwesMore (value : Nat) : List Range → Bool
  | [] => true
  | r :: rest => 16 ≤ 64 * value + r.low.toNat % 64 &&
    (r :: rest).all fun r => 0x80 ≤ r.low && r.high ≤ 0xbf

/-- A first byte that others are to follow stands for a character behind the control characters.
This is checked for all bytes at once. -/
theorem owesMore_following (b : UInt8) :
    (match following b with
      | none => true
      | some [] => b < 0x80
      | some owed => OwesMore (leadBits b) owed) = true := by
  have hall : ∀ n < 256, (match following (UInt8.ofNat n) with
      | none => true
      | some [] => UInt8.ofNat n < 0x80
      | some owed => OwesMore (leadBits (UInt8.ofNat n)) owed) = true := by
    decide +kernel
  have hb := hall b.toNat b.toNat_lt
  rwa [UInt8.ofNat_toNat] at hb

/-- A byte that is owed leaves a code point, or the first bits of one, behind the control
characters. -/
theorem owesMore_cons {value : Nat} {r : Range} {owed : List Range}
    (h : OwesMore value (r :: owed) = true) {b : UInt8} (hb : r.admits b = true) :
    16 ≤ 64 * value + b.toNat % 64 ∧ OwesMore (64 * value + b.toNat % 64) owed = true := by
  simp only [OwesMore, Range.admits, List.all_cons, Bool.and_eq_true, decide_eq_true_eq] at h hb
  obtain ⟨henough, ⟨hlow, hhigh⟩, hlater⟩ := h
  have hlow : 128 ≤ r.low.toNat := UInt8.le_iff_toNat_le.mp hlow
  have hhigh : r.high.toNat ≤ 191 := UInt8.le_iff_toNat_le.mp hhigh
  have hadmitted : r.low.toNat ≤ b.toNat ∧ b.toNat ≤ r.high.toNat :=
    hb.imp UInt8.le_iff_toNat_le.mp UInt8.le_iff_toNat_le.mp
  have hvalue : 16 ≤ 64 * value + b.toNat % 64 := by omega
  refine ⟨hvalue, ?_⟩
  cases owed with
  | nil => rfl
  | cons r' later =>
    rw [OwesMore, hlater, Bool.and_true, decide_eq_true_eq]
    omega

/-- Reading bytes as text makes no line break, whatever is broken in them. -/
theorem lineBreak_not_mem_lossyFrom {data : Bytes} (hdata : 10 ∉ data) {value : Nat}
    {owed : List Range} (howed : OwesMore value owed = true) :
    '\n' ∉ lossyFrom value owed data := by
  induction data generalizing value owed with
  | nil =>
    rw [lossyFrom]
    split
    · simp
    · decide
  | cons b rest ih =>
    obtain ⟨hb, hrest⟩ := not_or.mp (mt List.mem_cons.mpr hdata)
    have hbroken : '\n' ∉ replacement :: lossyFrom 0 [] rest :=
      List.not_mem_cons_of_ne_of_not_mem (by decide) (ih hrest rfl)
    have hanew : '\n' ∉ lossyFrom 0 [] (b :: rest) := by
      have howes := owesMore_following b
      rw [lossyFrom]
      rcases hfollowing : following b with _ | _ | ⟨r, owed⟩
      · exact hbroken
      · refine List.not_mem_cons_of_ne_of_not_mem (fun h => hb ?_) (ih hrest rfl)
        exact UInt8.toNat_inj.mp (eq_of_ofNat_eq_lineBreak h.symm).symm
      · rw [hfollowing] at howes
        exact ih hrest howes
    cases owed with
    | nil =>
      -- The bits so far do not matter where a character starts.
      simp only [lossyFrom] at hanew ⊢
      exact hanew
    | cons r owed =>
      simp only [lossyFrom] at hanew ⊢
      split_ifs with hadmits hlast
      · obtain ⟨hvalue, -⟩ := owesMore_cons howed hadmits
        refine List.not_mem_cons_of_ne_of_not_mem (fun h => ?_) (ih hrest rfl)
        have := eq_of_ofNat_eq_lineBreak h.symm
        omega
      · exact ih hrest (owesMore_cons howed hadmits).2
      · exact List.not_mem_cons_of_ne_of_not_mem (by decide) hanew

end Utf8

/-- Bytes without a line break are read as a text without one. -/
theorem unbroken_lossy {data : Bytes} (h : 10 ∉ data) : Unbroken (Utf8.lossy data) := by
  rw [Unbroken, Utf8.lossy, String.toList_ofList]
  exact Utf8.lineBreak_not_mem_lossyFrom h rfl

/-! ## JSON -/

namespace JsonValue

theorem unbroken_quote {word : String} (h : Unbroken word) : Unbroken (quote word) := by
  rw [quote, unbroken_append, unbroken_append]
  exact ⟨⟨by decide, h⟩, by decide⟩

/-- An array is on one line if its items are. -/
theorem unbroken_array {items : List JsonValue} (h : ∀ item ∈ items, Unbroken item.compact) :
    Unbroken (array items).compact := by
  have hitems : ∀ text ∈ compactItems items, Unbroken text := by
    rw [compactItems_eq_map]
    exact List.forall_mem_map.mpr h
  rw [compact, unbroken_append, unbroken_append]
  exact ⟨⟨by decide, unbroken_intercalate (by decide) hitems⟩, by decide⟩

theorem unbroken_object {fields : List (String × JsonValue)}
    (h : ∀ field ∈ fields, Unbroken field.1 ∧ Unbroken field.2.compact) :
    Unbroken (object fields).compact := by
  have hfields : ∀ text ∈ compactFields fields, Unbroken text := by
    rw [compactFields_eq_map, List.forall_mem_map]
    intro field hfield
    obtain ⟨hkey, hvalue⟩ := h field hfield
    rw [unbroken_append, unbroken_append]
    exact ⟨⟨unbroken_quote hkey, by decide⟩, hvalue⟩
  rw [compact, braced, unbroken_append, unbroken_append]
  exact ⟨⟨by decide, unbroken_intercalate (by decide) hfields⟩, by decide⟩

theorem unbroken_bool (value : Bool) : Unbroken (bool value).compact := by
  cases value <;> decide

/-- A plain word has no line break, which would have to be escaped. -/
theorem unbroken_of_isPlainWord {word : String} (h : IsPlainWord word) : Unbroken word :=
  fun hbreak => absurd (h '\n' hbreak) (by decide)

/-- A value whose words are plain is written on one line. -/
theorem IsPlain.unbroken {v : JsonValue} (h : v.IsPlain) : Unbroken v.compact := by
  induction h with
  | null => decide
  | bool => exact unbroken_bool _
  | number => exact unbroken_toString _
  | name h => exact unbroken_quote (unbroken_of_isPlainWord h)
  | array _ ih => exact unbroken_array ih
  | object hkeys _ ih =>
    exact unbroken_object fun field h => ⟨unbroken_of_isPlainWord (hkeys field h), ih field h⟩

end JsonValue

namespace Report

open JsonValue (IsPlain IsPlainWord)

/-! ## Words of events -/

theorem isPlain_optional (value : Option Nat) : (optional value).IsPlain := by
  cases value with
  | none => exact .null
  | some n => exact .number

theorem isPlain_byteArray (data : Bytes) : (byteArray data).IsPlain := by
  refine .array fun item hitem => ?_
  obtain ⟨b, -, rfl⟩ := List.mem_map.mp hitem
  exact .number

/-- The keys of a sample and its values are plain. -/
theorem isPlain_sampleFields (r : SampleRecord) :
    ∀ field ∈ sampleFields r, IsPlainWord field.1 ∧ field.2.IsPlain := by
  have hdata : ∀ field ∈ (if r.data.isEmpty then [] else [("data", byteArray r.data)]),
      IsPlainWord field.1 ∧ field.2.IsPlain := by
    split
    · exact nofun
    · rw [List.forall_mem_singleton]
      exact ⟨(by decide : IsPlainWord "data"), isPlain_byteArray r.data⟩
  simp only [sampleFields, List.forall_mem_append, List.forall_mem_cons, List.not_mem_nil,
    false_implies, implies_true, and_true]
  refine ⟨⟨⟨?_, ?_, ?_, ?_, ?_, ?_⟩, hdata⟩, ?_, ?_, ?_, ?_, ?_, ⟨by decide, ?cookie⟩,
    ⟨by decide, .bool⟩⟩
  case cookie =>
    cases r.userCookie with
    | none => exact .null
    | some cookie => exact isPlain_byteArray cookie
  all_goals exact ⟨by decide, isPlain_optional _⟩

theorem isPlain_configFields (r : ConfigRecord) :
    ∀ field ∈ configFields r, IsPlainWord field.1 ∧ field.2.IsPlain := by
  simp only [configFields, List.forall_mem_cons, List.not_mem_nil, false_implies, implies_true,
    and_true]
  refine ⟨⟨by decide, .number⟩, ?_, ?_, ?_⟩
  all_goals exact ⟨by decide, isPlain_optional _⟩

/-- An object of plain fields is plain with the kind of its event in front. -/
theorem isPlain_tagged {kind : String} (hkind : IsPlainWord kind)
    {fields : List (String × JsonValue)}
    (h : ∀ field ∈ fields, IsPlainWord field.1 ∧ field.2.IsPlain) :
    (JsonValue.object (("event", .name kind) :: fields)).IsPlain := by
  have hevent : IsPlainWord "event" := by decide
  have hall : ∀ field ∈ ("event", .name kind) :: fields,
      IsPlainWord field.1 ∧ field.2.IsPlain :=
    List.forall_mem_cons.mpr ⟨⟨hevent, .name hkind⟩, h⟩
  exact .object (fun field h => (hall field h).1) (fun field h => (hall field h).2)

/-- The object that an event is printed as is plain. -/
theorem isPlain_eventJson (r : EventRecord) : (eventJson r).IsPlain := by
  match r with
  | .sample r => exact isPlain_tagged (by decide) (isPlain_sampleFields r)
  | .config r => exact isPlain_tagged (by decide) (isPlain_configFields r)

theorem unbroken_eventJson (r : EventRecord) : Unbroken (eventJson r).compact :=
  (isPlain_eventJson r).unbroken

/-! ## Plain text -/

/-- Whether no name of an interface has a line break. -/
def NamesUnbroken (names : InterfaceNames) : Prop :=
  ∀ index name, names index = some name → 10 ∉ name

/-- An interface is shown by its name, up to the first null byte, or by its number, either without a
line break. -/
theorem unbroken_interfaceText {names : InterfaceNames} (h : NamesUnbroken names) (index : UInt16) :
    Unbroken (interfaceText names index) := by
  unfold interfaceText
  cases hname : names index with
  | none => exact unbroken_toString index.toNat
  | some name =>
    refine unbroken_lossy fun hmem => h index name hname ?_
    exact List.mem_of_mem_take ((List.takeWhile_sublist _).mem hmem)

/-- A label and what is written behind it, if anything is. -/
theorem unbroken_labelled {α : Type} {label : String} (hlabel : Unbroken label) (value : Option α)
    {write : α → String} (h : ∀ a, Unbroken (write a)) :
    Unbroken (labelled label (value.map write)) := by
  cases value with
  | none => exact (by decide : Unbroken "")
  | some a => exact unbroken_append.mpr ⟨hlabel, h a⟩

/-- A sample is described on one line. -/
theorem unbroken_sampleText {names : InterfaceNames} (h : NamesUnbroken names) (r : SampleRecord) :
    Unbroken (sampleText names r) := by
  have h16 (n : UInt16) : Unbroken (toString n) := unbroken_toString n.toNat
  have h32 (n : UInt32) : Unbroken (toString n) := unbroken_toString n.toNat
  have h64 (n : UInt64) : Unbroken (toString n) := unbroken_toString n.toNat
  have hlatency (n : UInt64) : Unbroken (toString n ++ "ns") :=
    unbroken_append.mpr ⟨h64 n, by decide⟩
  have hrate : Unbroken (if r.isProbability then " probability " else " rate ") := by
    split_ifs <;> decide
  have hname := unbroken_interfaceText h
  unfold sampleText
  simp only [unbroken_append, and_assoc]
  exact ⟨by decide, unbroken_labelled (by decide) _ h32, unbroken_labelled hrate _ h32,
    unbroken_labelled (by decide) _ hname, unbroken_labelled (by decide) _ hname,
    unbroken_labelled (by decide) _ h16, unbroken_labelled (by decide) _ h64,
    unbroken_labelled (by decide) _ hlatency, unbroken_labelled (by decide) _ h32, by decide,
    unbroken_toString r.data.length, unbroken_labelled (by decide) _ h32,
    unbroken_labelled (by decide) _ unbroken_hex⟩

theorem unbroken_configText (r : ConfigRecord) : Unbroken (configText r) := by
  have h32 (n : UInt32) : Unbroken (toString n) := unbroken_toString n.toNat
  have haction : Unbroken (actionText r) := by
    unfold actionText
    split
    · decide
    · decide
    · exact unbroken_append.mpr ⟨by decide, unbroken_toString r.code.toNat⟩
  have hgroup : Unbroken ((r.group.map toString).getD "?") := by
    cases r.group with
    | none => exact (by decide : Unbroken "?")
    | some group => exact h32 group
  unfold configText
  simp only [unbroken_append]
  exact ⟨⟨⟨haction, by decide⟩, hgroup⟩, unbroken_labelled (by decide) _ h32⟩

/-! ## Lines -/

/-- Whether a text is one line with its end. -/
def IsLine (text : String) : Prop := ∃ line, text = line ++ "\n" ∧ Unbroken line

/-- The report of an event is one line. -/
theorem isLine_eventLine {format : Format} {names : InterfaceNames}
    (h : format = .text → NamesUnbroken names) (r : EventRecord) :
    IsLine (eventLine format names r) := by
  match format, r with
  | .json, r => exact ⟨_, rfl, unbroken_eventJson r⟩
  | .text, .sample r => exact ⟨_, rfl, unbroken_sampleText (h rfl) r⟩
  | .text, .config r => exact ⟨_, rfl, unbroken_configText r⟩

end Report

end SampleTap
