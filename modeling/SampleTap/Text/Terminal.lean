/-!
# Text meant for a terminal

A text can hold escape sequences, which a terminal obeys instead of showing them. `plain` is the
text as it is written where there is no terminal: escape sequences and control characters are left
out, and blanks and line breaks stay.

A reader goes over the text one character at a time and remembers its place in a sequence. A blank
control character, such as a tab, breaks into most sequences: what follows it shows, until another
control character resumes the sequence.

`plain_eq_self` says that a text without control characters is plain already, and
`isBlank_of_mem_plain` that the only control characters of a plain text are blanks.
-/

namespace SampleTap.Terminal

/-! ## Characters -/

/-- Whether a character controls a terminal. -/
def isControl (c : Char) : Bool := c.toNat < 0x20 || c.toNat = 0x7f

/-- Whether a control character leaves a gap: a tab, a line feed, a form feed or a carriage
return. -/
def isBlank (c : Char) : Bool := c = '\t' || c = '\n' || c = '\x0c' || c = '\r'

/-- Whether a character can stand in the middle of a sequence. -/
def isIntermediate (c : Char) : Bool := 0x20 ≤ c.toNat && c.toNat ≤ 0x2f

/-- Whether a character can be a parameter of a sequence. -/
def isParameter (c : Char) : Bool := 0x30 ≤ c.toNat && c.toNat ≤ 0x3f

/-- Whether a parameter keeps its own meaning only at the start of a sequence. -/
def isPrivate (c : Char) : Bool := 0x3c ≤ c.toNat && c.toNat ≤ 0x3f

/-- Whether a character can end a sequence. -/
def isFinal (c : Char) : Bool := 0x40 ≤ c.toNat && c.toNat ≤ 0x7e

/-- Whether a character has the byte among its own that terminates a string. -/
def holdsTerminator (c : Char) : Bool := (String.utf8EncodeChar c).contains 0x9c

/-! ## Places in a sequence -/

/-- Where a reader is. -/
inductive Place
  /-- In no sequence. -/
  | text
  /-- Behind the escape character. -/
  | escape
  /-- Behind the escape character and intermediate ones. -/
  | escapeIntermediate
  /-- In a control sequence. -/
  | control
  /-- At the start of a device control sequence. -/
  | deviceStart
  /-- Among the parameters of a device control sequence. -/
  | deviceParameters
  /-- Among the intermediate characters of a device control sequence. -/
  | deviceIntermediate
  /-- In a string that only its terminator ends. -/
  | string
  /-- In a command to the operating system, which a bell ends. -/
  | command
deriving DecidableEq, Repr

namespace Place

/-- Whether a blank control character breaks into a sequence. -/
def yieldsToBlank : Place → Bool
  | text | escape | escapeIntermediate | control => true
  | _ => false

/-- The place behind the escape character and one more. -/
def afterEscape (c : Char) : Place :=
  if isIntermediate c then escapeIntermediate
  else if c = '[' then control
  else if c = ']' then command
  else if c = 'P' then deviceStart
  else if c = 'X' || c = '^' || c = '_' then string
  else if isParameter c || isFinal c then text
  else escape

/-- The place behind a character that does not show. -/
def next (p : Place) (c : Char) : Place :=
  if c = '\x18' || c = '\x1a' then text
  else if c = '\x1b' then escape
  else
    match p with
    | text => text
    | escape => afterEscape c
    | escapeIntermediate => if isParameter c || isFinal c then text else p
    | control => if isFinal c then text else p
    | deviceStart =>
      if isFinal c then string
      else if isParameter c then deviceParameters
      else if isIntermediate c then deviceIntermediate
      else p
    | deviceParameters =>
      if isFinal c || isPrivate c then string
      else if isIntermediate c then deviceIntermediate
      else p
    | deviceIntermediate => if isParameter c || isFinal c then string else p
    | string => if holdsTerminator c then text else p
    | command => if c = '\x07' then text else p

end Place

/-! ## Plain text -/

/-- A reader of text. -/
structure Reader where
  place : Place := .text
  /-- Whether a blank broke into the sequence. -/
  interrupted : Bool := false
deriving DecidableEq, Repr

namespace Reader

/-- Whether a character shows. -/
def shows (r : Reader) (c : Char) : Bool :=
  if isControl c then isBlank c && (r.interrupted || r.place.yieldsToBlank)
  else r.interrupted || r.place = .text

/-- The reader behind a character. One beyond ASCII that shows ends an interrupted sequence. -/
def next (r : Reader) (c : Char) : Reader :=
  if !r.shows c then { place := r.place.next c }
  else if 0x80 ≤ c.toNat then {}
  else { r with interrupted := r.place ≠ .text }

end Reader

/-- What shows of the characters in front of a reader. -/
def plainFrom : Reader → List Char → List Char
  | _, [] => []
  | r, c :: rest =>
    if r.shows c then c :: plainFrom (r.next c) rest else plainFrom (r.next c) rest

/-- What shows of a text. -/
def plain (text : String) : String := String.ofList (plainFrom {} text.toList)

theorem plainFrom_eq_self {text : List Char} (h : ∀ c ∈ text, isControl c = false) :
    plainFrom {} text = text := by
  induction text with
  | nil => rfl
  | cons c rest ih =>
    have hc : isControl c = false := h c (by simp)
    have hshows : Reader.shows {} c = true := by simp [Reader.shows, hc]
    have hnext : Reader.next {} c = {} := by simp [Reader.next, hshows]
    rw [plainFrom, if_pos hshows, hnext, ih fun d hd => h d (by simp [hd])]

/-- Text without control characters shows as it is. -/
theorem plain_eq_self {text : String} (h : ∀ c ∈ text.toList, isControl c = false) :
    plain text = text := by
  rw [plain, plainFrom_eq_self h, String.ofList_toList]

theorem isBlank_of_mem_plainFrom {r : Reader} {text : List Char} {c : Char}
    (hmem : c ∈ plainFrom r text) (hc : isControl c = true) : isBlank c = true := by
  induction text generalizing r with
  | nil => simp [plainFrom] at hmem
  | cons d rest ih =>
    rw [plainFrom] at hmem
    split at hmem
    · rename_i hshows
      rcases List.mem_cons.mp hmem with rfl | hrest
      · simp only [Reader.shows, hc, if_true, Bool.and_eq_true] at hshows
        exact hshows.1
      · exact ih hrest
    · exact ih hmem

/-- The control characters that a plain text keeps are blanks. -/
theorem isBlank_of_mem_plain {text : String} {c : Char} (hmem : c ∈ (plain text).toList)
    (hc : isControl c = true) : isBlank c = true :=
  isBlank_of_mem_plainFrom (by simpa [plain] using hmem) hc

end SampleTap.Terminal
