import SampleTap.Text.Json

/-!
# Reading JSON text

A reader of the one-line layout. It takes a text apart into tokens, and puts these on a stack. A
bracket that closes replaces what lies above its opening bracket by one value, so that a text is
accepted when a single value is left.

The reader gives back every value whose words stand between quotes as they are
(`JsonValue.read?_compact`). Its core is `JsonValue.Spells`: whatever lies on the stack and whatever
follows, reading a text puts certain entries on the stack and goes on behind it. The text of a value
spells the value itself (`IsPlain.spells`), by induction on the value, and `close_intercalate` is
the step for either kind of brackets.
-/

namespace SampleTap
namespace JsonValue

/-! ## Tokens -/

/-- A character that stands for itself. -/
inductive Mark
  | openArray
  | closeArray
  | openObject
  | closeObject
  | comma
  | colon
deriving DecidableEq, Repr

/-- The mark that a character is. -/
def Mark.ofChar? : Char → Option Mark
  | '[' => some openArray
  | ']' => some closeArray
  | '{' => some openObject
  | '}' => some closeObject
  | ',' => some comma
  | ':' => some colon
  | _ => none

/-- A token of a text. -/
inductive Token
  | mark (m : Mark)
  /-- Letters and digits without quotes. -/
  | bare (word : List Char)
  | quoted (word : List Char)
deriving DecidableEq, Repr

/-- The character in front of a quoted word and behind it. -/
def quotation : Char := '"'

/-- Whether a character stands between quotes as it is: it is no quote, starts no escape and is no
control character. -/
def IsPlainChar (c : Char) : Prop := c ≠ quotation ∧ c ≠ '\\' ∧ 0x20 ≤ c.toNat

instance : DecidablePred IsPlainChar := fun c =>
  inferInstanceAs (Decidable (c ≠ quotation ∧ c ≠ '\\' ∧ 0x20 ≤ c.toNat))

/-- The tokens with a letter or digit in front of them. -/
def spell (c : Char) : List Token → List Token
  | .bare word :: rest => .bare (c :: word) :: rest
  | rest => .bare [c] :: rest

mutual

/-- The tokens of a text. -/
def tokens? : List Char → Option (List Token)
  | [] => some []
  | c :: rest =>
    if c = quotation then (quoted? rest).map fun (word, later) => .quoted word :: later
    else if c.isAlphanum then (tokens? rest).map (spell c)
    else (Mark.ofChar? c).bind fun m => (tokens? rest).map (.mark m :: ·)

/-- The characters up to a quote, and the tokens behind it. -/
def quoted? : List Char → Option (List Char × List Token)
  | [] => none
  | c :: rest =>
    if c = quotation then (tokens? rest).map ([], ·)
    else if IsPlainChar c then (quoted? rest).map fun (word, later) => (c :: word, later)
    else none

end

/-! ## Values from tokens -/

/-- What lies on the stack. -/
inductive Entry
  | mark (m : Mark)
  | value (v : JsonValue)

/-- Whether an entry is a certain mark. -/
def Entry.isMark (m : Mark) : Entry → Bool
  | mark m' => m == m'
  | value _ => false

/-- The value of a word without quotes. A number is written without leading zeros. -/
def scalar? (word : List Char) : Option JsonValue :=
  let n := Nat.ofDigitChars 10 word 0
  if word = "null".toList then some null
  else if word = "true".toList then some (bool true)
  else if word = "false".toList then some (bool false)
  else if word = Nat.toDigits 10 n then some (number n)
  else none

/-- The value that is the only entry. -/
def item? : List Entry → Option JsonValue
  | [.value v] => some v
  | _ => none

/-- The key and the value of a field. -/
def field? : List Entry → Option (String × JsonValue)
  | [.value (name key), .mark .colon, .value v] => some (key, v)
  | _ => none

/-- The pieces between commas. -/
def pieces (inner : List Entry) : List (List Entry) :=
  if inner.isEmpty then [] else inner.splitOnP (Entry.isMark .comma)

/-- Replaces what lies above an opening mark, and the mark, by a value of the pieces. -/
def close (opening : Mark) (value? : List (List Entry) → Option JsonValue) (stack : List Entry) :
    Option (List Entry) :=
  match stack.dropWhile (!·.isMark opening) with
  | [] => none
  | _ :: below =>
    (value? (pieces (stack.takeWhile (!·.isMark opening)).reverse)).map (.value · :: below)

/-- The stack behind a token. -/
def step (stack : List Entry) : Token → Option (List Entry)
  | .bare word => (scalar? word).map (.value · :: stack)
  | .quoted word => some (.value (name (String.ofList word)) :: stack)
  | .mark .closeArray => close .openArray (fun ps => (ps.mapM item?).map array) stack
  | .mark .closeObject => close .openObject (fun ps => (ps.mapM field?).map object) stack
  | .mark m => some (.mark m :: stack)

/-- The stack behind a text. -/
def readOnto (stack : List Entry) (text : List Char) : Option (List Entry) :=
  (tokens? text).bind (·.foldlM step stack)

/-- The value of a text. -/
def read? (text : String) : Option JsonValue := (readOnto [] text.toList).bind item?

/-! ## Values whose words are plain -/

/-- Whether a word stands between quotes as it is. -/
def IsPlainWord (word : String) : Prop := ∀ c ∈ word.toList, IsPlainChar c

instance : DecidablePred IsPlainWord := fun word => List.decidableBAll IsPlainChar word.toList

/-- Whether all words in a value stand between quotes as they are. -/
inductive IsPlain : JsonValue → Prop
  | null : IsPlain null
  | bool {b : Bool} : IsPlain (bool b)
  | number {n : Nat} : IsPlain (number n)
  | name {word : String} : IsPlainWord word → IsPlain (name word)
  | array {items : List JsonValue} : (∀ item ∈ items, IsPlain item) → IsPlain (array items)
  | object {fields : List (String × JsonValue)} : (∀ field ∈ fields, IsPlainWord field.1) →
      (∀ field ∈ fields, IsPlain field.2) → IsPlain (object fields)

/-! ## Reading tokens -/

/-- Whether no letter or digit comes next. -/
def EndsWord (text : List Char) : Prop := ∀ c ∈ text.head?, c.isAlphanum = false

/-- Reading the first token of a text, and then what is behind it. -/
theorem readOnto_of_token {text rest : List Char} {t : Token}
    (h : tokens? text = (tokens? rest).map (t :: ·)) (stack : List Entry) :
    readOnto stack text = (step stack t).bind (readOnto · rest) := by
  unfold readOnto
  rw [h]
  cases tokens? rest with
  | none => exact (Option.bind_fun_none _).symm
  | some ts => exact List.foldlM_cons

/-- A mark is neither a quote nor part of a word. -/
theorem Mark.of_ofChar? {c : Char} {m : Mark} (h : ofChar? c = some m) :
    c ≠ quotation ∧ c.isAlphanum = false := by
  unfold ofChar? at h
  split at h
  all_goals first | decide | cases h

/-- A mark is read as a step of the stack. -/
theorem readOnto_mark {c : Char} {m : Mark} (h : Mark.ofChar? c = some m) (stack : List Entry)
    (rest : List Char) :
    readOnto stack (c :: rest) = (step stack (.mark m)).bind (readOnto · rest) := by
  obtain ⟨hquote, hword⟩ := Mark.of_ofChar? h
  apply readOnto_of_token
  rw [tokens?, if_neg hquote, hword, if_neg Bool.false_ne_true, h]
  rfl

theorem endsWord_mark {c : Char} {m : Mark} (h : Mark.ofChar? c = some m) (rest : List Char) :
    EndsWord (c :: rest) := by
  intro d hd
  rw [← Option.mem_some.mp hd]
  exact (Mark.of_ofChar? h).2

/-- A plain word ends at the quotation mark behind it. -/
theorem quoted?_append {word : List Char} (h : ∀ c ∈ word, IsPlainChar c) (rest : List Char) :
    quoted? (word ++ quotation :: rest) = (tokens? rest).map (word, ·) := by
  induction word with
  | nil => rw [List.nil_append, quoted?, if_pos rfl]
  | cons c word ih =>
    obtain ⟨hc, hword⟩ := List.forall_mem_cons.mp h
    rw [List.cons_append, quoted?, if_neg hc.1, if_pos hc, ih hword, Option.map_map]
    rfl

/-- A quoted word is one token, whatever is behind it. -/
theorem tokens?_quote {word : String} (h : IsPlainWord word) (rest : List Char) :
    tokens? ((quote word).toList ++ rest) =
      (tokens? rest).map (.quoted word.toList :: ·) := by
  have htext : (quote word).toList ++ rest =
      quotation :: (word.toList ++ quotation :: rest) := by
    rw [quote, String.toList_append, String.toList_append, List.append_assoc, List.append_assoc]
    rfl
  rw [htext, tokens?, if_pos rfl, quoted?_append h, Option.map_map]
  rfl

/-- A letter or digit at the end of a word is a token by itself. -/
theorem map_spell_of_endsWord {rest : List Char} (h : EndsWord rest) (c : Char) :
    (tokens? rest).map (spell c) = (tokens? rest).map (.bare [c] :: ·) := by
  cases rest with
  | nil =>
    rw [tokens?]
    rfl
  | cons d rest =>
    have hd : d.isAlphanum = false := h d rfl
    rw [tokens?, hd, if_neg Bool.false_ne_true]
    split
    · rw [Option.map_map, Option.map_map]
      rfl
    · cases Mark.ofChar? d with
      | none => rfl
      | some m =>
        rw [Option.bind_some, Option.map_map, Option.map_map]
        rfl

/-- A bare word is one token if what is behind it ends it. -/
theorem tokens?_bare {word : List Char} (hne : word ≠ []) (hword : word.all Char.isAlphanum)
    {rest : List Char} (hrest : EndsWord rest) :
    tokens? (word ++ rest) = (tokens? rest).map (.bare word :: ·) := by
  induction word with
  | nil => exact absurd rfl hne
  | cons c word ih =>
    rw [List.all_cons, Bool.and_eq_true] at hword
    obtain ⟨halphanum, hlater⟩ := hword
    have hquote : c ≠ quotation := by
      rintro rfl
      exact absurd halphanum (by decide)
    rw [List.cons_append, tokens?, if_neg hquote, if_pos halphanum]
    cases word with
    | nil => exact map_spell_of_endsWord hrest c
    | cons d word =>
      rw [ih (List.cons_ne_nil d word) hlater, Option.map_map]
      rfl

/-! ## What a text puts on the stack -/

/-- Whether reading a text puts entries on the stack, the last one on top, whatever lies there and
whatever follows. Only a word may not go on behind the text. -/
def Spells (text : String) (entries : List Entry) : Prop :=
  ∀ (stack : List Entry) (rest : List Char), EndsWord rest →
    readOnto stack (text.toList ++ rest) = readOnto (entries.reverse ++ stack) rest

theorem spells_name {word : String} (h : IsPlainWord word) :
    Spells (quote word) [.value (name word)] := by
  intro stack rest _
  rw [readOnto_of_token (tokens?_quote h rest), step, String.ofList_toList]
  rfl

/-- A bare word spells the value that it is read as. -/
theorem spells_bare {text : String} {v : JsonValue} (hne : text.toList ≠ [])
    (hword : text.toList.all Char.isAlphanum)
    (hscalar : scalar? text.toList = some v) : Spells text [.value v] := by
  intro stack rest hrest
  rw [readOnto_of_token (tokens?_bare hne hword hrest), step, hscalar]
  rfl

/-- Digits are read as their number. -/
theorem scalar?_toDigits (n : Nat) : scalar? (Nat.toDigits 10 n) = some (number n) := by
  have hdigits {word : List Char} {c : Char} (hc : c ∈ word) (hletter : c.isDigit = false) :
      Nat.toDigits 10 n ≠ word := by
    rintro rfl
    have hdigit := Nat.isDigit_of_mem_toDigits (by decide) (by decide) hc
    exact Bool.false_ne_true (hletter.symm.trans hdigit)
  have hnull := hdigits (by decide : 'n' ∈ "null".toList) rfl
  have htrue := hdigits (by decide : 't' ∈ "true".toList) rfl
  have hfalse := hdigits (by decide : 'f' ∈ "false".toList) rfl
  simp only [scalar?, if_neg hnull, if_neg htrue, if_neg hfalse, Nat.ofDigitChars_ten_toDigits,
    if_true]

theorem spells_number (n : Nat) : Spells (toString n) [.value (number n)] := by
  have htext : (toString n).toList = Nat.toDigits 10 n := Nat.toList_repr
  refine spells_bare ?_ ?_ ?_
  · rw [htext]
    exact Nat.toDigits_ne_nil
  · rw [htext, List.all_eq_true]
    intro c hc
    have hdigit := Nat.isDigit_of_mem_toDigits (by decide) (by decide) hc
    rw [Char.isAlphanum, hdigit, Bool.or_true]
  · rw [htext]
    exact scalar?_toDigits n

/-! ## Between brackets -/

/-- Texts with commas between them put their entries on the stack, with commas between these. -/
theorem Spells.intercalate {α : Type} {text : α → String} {entries : α → List Entry}
    {items : List α} (h : ∀ a ∈ items, Spells (text a) (entries a)) :
    Spells (",".intercalate (items.map text)) ([.mark .comma].intercalate (items.map entries)) := by
  induction items with
  | nil =>
    intro stack rest _
    rfl
  | cons a more ih =>
    obtain ⟨ha, hmore⟩ := List.forall_mem_cons.mp h
    cases more with
    | nil =>
      rw [List.map_singleton, List.map_singleton, String.intercalate_singleton,
        List.intercalate_singleton]
      exact ha
    | cons b more =>
      intro stack rest hrest
      have hcomma : Mark.ofChar? ',' = some .comma := rfl
      rw [List.map_cons, List.map_cons, List.map_cons, List.map_cons, String.intercalate_cons_cons,
        List.intercalate_cons_cons, String.toList_append, String.toList_append, List.append_assoc,
        List.append_assoc]
      -- The comma ends the first text, and the others are read onto it.
      show readOnto stack ((text a).toList ++ ',' :: ((",".intercalate _).toList ++ rest)) = _
      rw [ha stack _ (endsWord_mark hcomma _), readOnto_mark hcomma]
      show readOnto (.mark .comma :: ((entries a).reverse ++ stack)) _ = _
      rw [← List.map_cons, ih hmore _ rest hrest]
      simp only [List.map_cons, List.reverse_append, List.reverse_cons, List.append_assoc,
        List.cons_append, List.nil_append]

/-- What was joined by separators is split at them. -/
theorem splitOnP_intercalate {α : Type} {p : α → Bool} {separator : α} (hseparator : p separator)
    {blocks : List (List α)} (hne : blocks ≠ [])
    (h : ∀ block ∈ blocks, ∀ a ∈ block, p a = false) :
    ([separator].intercalate blocks).splitOnP p = blocks := by
  induction blocks with
  | nil => exact absurd rfl hne
  | cons block more ih =>
    obtain ⟨hblock, hmore⟩ := List.forall_mem_cons.mp h
    cases more with
    | nil => rw [List.intercalate_singleton, List.splitOnP_eq_singleton hblock]
    | cons block' more =>
      rw [List.intercalate_cons_cons, List.append_assoc, List.singleton_append,
        List.splitOnP_append_cons_of_forall_mem hblock _ hseparator,
        ih (List.cons_ne_nil block' more) hmore]

/-- Whether entries above an opening mark are one piece between commas. -/
structure IsPiece (opening : Mark) (entries : List Entry) : Prop where
  ne_nil : entries ≠ []
  comma : ∀ e ∈ entries, e.isMark .comma = false
  opening : ∀ e ∈ entries, e.isMark opening = false

section

variable {opening : Mark} {blocks : List (List Entry)}

/-- No mark of the opening kind lies above the opening one. -/
theorem isMark_intercalate (hopening : opening ≠ .comma)
    (h : ∀ block ∈ blocks, IsPiece opening block) :
    ∀ e ∈ [.mark .comma].intercalate blocks, e.isMark opening = false := by
  induction blocks with
  | nil => exact nofun
  | cons block more ih =>
    obtain ⟨hblock, hmore⟩ := List.forall_mem_cons.mp h
    cases more with
    | nil =>
      rw [List.intercalate_singleton]
      exact hblock.opening
    | cons block' more =>
      rw [List.intercalate_cons_cons, List.append_assoc, List.forall_mem_append,
        List.singleton_append, List.forall_mem_cons]
      exact ⟨hblock.opening, beq_eq_false_iff_ne.mpr hopening, ih hmore⟩

/-- Pieces that are joined by commas come apart again. -/
theorem pieces_intercalate (h : ∀ block ∈ blocks, IsPiece opening block) :
    pieces ([.mark .comma].intercalate blocks) = blocks := by
  cases blocks with
  | nil => rfl
  | cons block more =>
    have hne : ([.mark .comma].intercalate (block :: more)).isEmpty = false := by
      obtain ⟨e, rest, hblock⟩ := List.exists_cons_of_ne_nil (h block List.mem_cons_self).ne_nil
      cases more with
      | nil => rw [List.intercalate_singleton, hblock, List.isEmpty_cons]
      | cons block' more =>
        rw [List.intercalate_cons_cons, hblock]
        rfl
    rw [pieces, hne, if_neg Bool.false_ne_true]
    exact splitOnP_intercalate rfl (List.cons_ne_nil block more) fun b hb => (h b hb).comma

/-- A closing bracket makes a value of the pieces above the opening one. -/
theorem close_intercalate (hopening : opening ≠ .comma)
    (h : ∀ block ∈ blocks, IsPiece opening block) (value? : List (List Entry) → Option JsonValue)
    (stack : List Entry) :
    close opening value?
        (([.mark .comma].intercalate blocks).reverse ++ .mark opening :: stack) =
      (value? blocks).map (.value · :: stack) := by
  have habove : ∀ e ∈ ([.mark .comma].intercalate blocks).reverse,
      (!e.isMark opening) = true := by
    intro e he
    rw [isMark_intercalate hopening h e (List.mem_reverse.mp he)]
    rfl
  have hstop : (!(Entry.mark opening).isMark opening) = false := by
    rw [Entry.isMark, beq_self_eq_true]
    rfl
  rw [close, List.dropWhile_append_of_pos habove, List.takeWhile_append_of_pos habove,
    List.dropWhile_cons_of_neg (by rw [hstop]; exact Bool.false_ne_true),
    List.takeWhile_cons_of_neg (by rw [hstop]; exact Bool.false_ne_true), List.append_nil,
    List.reverse_reverse, pieces_intercalate h]

end

theorem compactItems_eq_map (items : List JsonValue) : compactItems items = items.map compact := by
  induction items with
  | nil => rfl
  | cons item rest ih => rw [compactItems, ih, List.map_cons]

theorem compactFields_eq_map (fields : List (String × JsonValue)) :
    compactFields fields = fields.map fun field => quote field.1 ++ ":" ++ compact field.2 := by
  induction fields with
  | nil => rfl
  | cons field rest ih => rw [compactFields, ih, List.map_cons]

/-- An array spells itself if its items do. -/
theorem spells_array {items : List JsonValue}
    (h : ∀ item ∈ items, Spells item.compact [.value item]) :
    Spells (array items).compact [.value (array items)] := by
  intro stack rest _
  have hopen : Mark.ofChar? '[' = some .openArray := rfl
  have hclose : Mark.ofChar? ']' = some .closeArray := rfl
  have hpieces : ∀ block ∈ items.map fun item => [Entry.value item], IsPiece .openArray block := by
    intro block hblock
    obtain ⟨item, -, rfl⟩ := List.mem_map.mp hblock
    refine ⟨List.cons_ne_nil _ _, ?_, ?_⟩
    all_goals exact List.forall_mem_singleton.mpr rfl
  have hitems : (items.map fun item => [Entry.value item]).mapM item? = some items := by
    rw [List.mapM_map]
    exact List.mapM_pure.trans (congrArg some (List.map_id items))
  have htext : (array items).compact.toList ++ rest =
      '[' :: ((",".intercalate (items.map compact)).toList ++ ']' :: rest) := by
    rw [compact, compactItems_eq_map, String.toList_append, String.toList_append, List.append_assoc,
      List.append_assoc]
    rfl
  rw [htext, readOnto_mark hopen]
  show readOnto (.mark .openArray :: stack) _ = _
  rw [Spells.intercalate h _ _ (endsWord_mark hclose rest), readOnto_mark hclose, step,
    close_intercalate (by decide) hpieces, hitems]
  rfl

theorem spells_field {key : String} {v : JsonValue} (hkey : IsPlainWord key)
    (h : Spells v.compact [.value v]) :
    Spells (quote key ++ ":" ++ v.compact)
      [.value (name key), .mark .colon, .value v] := by
  intro stack rest hrest
  have hcolon : Mark.ofChar? ':' = some .colon := rfl
  rw [String.toList_append, String.toList_append, List.append_assoc, List.append_assoc]
  show readOnto stack ((quote key).toList ++ ':' :: (v.compact.toList ++ rest)) = _
  rw [spells_name hkey stack _ (endsWord_mark hcolon _), readOnto_mark hcolon]
  exact h (.mark .colon :: .value (name key) :: stack) rest hrest

/-- An object spells itself if its keys are plain and its values spell themselves. -/
theorem spells_object {fields : List (String × JsonValue)}
    (h : ∀ field ∈ fields, IsPlainWord field.1 ∧ Spells field.2.compact [.value field.2]) :
    Spells (object fields).compact [.value (object fields)] := by
  intro stack rest _
  have hopen : Mark.ofChar? '{' = some .openObject := rfl
  have hclose : Mark.ofChar? '}' = some .closeObject := rfl
  let entries (field : String × JsonValue) : List Entry :=
    [.value (name field.1), .mark .colon, .value field.2]
  have hspells : ∀ field ∈ fields,
      Spells (quote field.1 ++ ":" ++ compact field.2) (entries field) :=
    fun field hfield => spells_field (h field hfield).1 (h field hfield).2
  have hpieces : ∀ block ∈ fields.map entries, IsPiece .openObject block := by
    intro block hblock
    obtain ⟨field, -, rfl⟩ := List.mem_map.mp hblock
    refine ⟨List.cons_ne_nil _ _, ?_, ?_⟩
    all_goals
      simp only [entries, List.forall_mem_cons]
      exact ⟨rfl, rfl, rfl, nofun⟩
  have hfields : (fields.map entries).mapM field? = some fields := by
    rw [List.mapM_map]
    exact List.mapM_pure.trans (congrArg some (List.map_id fields))
  have htext : (object fields).compact.toList ++ rest =
      '{' :: ((",".intercalate (fields.map fun field =>
        quote field.1 ++ ":" ++ compact field.2)).toList ++ '}' :: rest) := by
    rw [compact, compactFields_eq_map, toList_braced, List.cons_append, List.append_assoc]
    rfl
  rw [htext, readOnto_mark hopen]
  show readOnto (.mark .openObject :: stack) _ = _
  rw [Spells.intercalate hspells _ _ (endsWord_mark hclose rest), readOnto_mark hclose, step,
    close_intercalate (by decide) hpieces, hfields]
  rfl

/-! ## Reading a value back -/

/-- A plain value spells itself, by induction on how it is made. -/
theorem IsPlain.spells {v : JsonValue} (h : v.IsPlain) : Spells v.compact [.value v] := by
  induction h with
  | null => exact spells_bare (by decide) (by decide) rfl
  | @bool b =>
    cases b
    · exact spells_bare (by decide) (by decide) rfl
    · exact spells_bare (by decide) (by decide) rfl
  | number => exact spells_number _
  | name h => exact spells_name h
  | array _ ih => exact spells_array ih
  | object hkeys _ ih => exact spells_object fun field h => ⟨hkeys field h, ih field h⟩

/-- A value whose words are plain is read from its text. -/
theorem read?_compact {v : JsonValue} (h : v.IsPlain) : read? v.compact = some v := by
  have hread := h.spells [] [] nofun
  rw [List.append_nil] at hread
  rw [read?, hread]
  rfl

end JsonValue
end SampleTap
