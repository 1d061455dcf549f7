import SampleTap.Bytes

/-!
# UTF-8 text that may be broken

Names on the wire are meant to be UTF-8. This module reads them strictly (`decode`), says where and
how a byte string stops being UTF-8 (`Fault`), and reads a byte string as text whatever it holds,
with a replacement character for each broken part (`lossy`).

A decoder goes over the bytes one at a time. Between two bytes it holds the ranges that the bytes
still owed to the current character must lie in.
-/

namespace SampleTap.Utf8

/-! ## Characters byte by byte -/

/-- An inclusive range of bytes. -/
structure Range where
  low : UInt8
  high : UInt8
deriving DecidableEq, Repr

/-- Whether `b` lies in the range. -/
def Range.admits (r : Range) (b : UInt8) : Bool := r.low ≤ b && b ≤ r.high

/-- The range of a continuation byte with no further restriction. -/
def Range.tail : Range := ⟨0x80, 0xbf⟩

/-- The ranges of the bytes that follow the first byte `b` of a character, or `none` when no
character starts with `b`. The second byte is restricted where a shorter form exists, where the
value would be a surrogate, and above the last code point. -/
def following (b : UInt8) : Option (List Range) :=
  if b < 0x80 then some []
  else if b < 0xc2 then none
  else if b < 0xe0 then some [.tail]
  else if b = 0xe0 then some [⟨0xa0, 0xbf⟩, .tail]
  else if b = 0xed then some [⟨0x80, 0x9f⟩, .tail]
  else if b < 0xf0 then some [.tail, .tail]
  else if b = 0xf0 then some [⟨0x90, 0xbf⟩, .tail, .tail]
  else if b < 0xf4 then some [.tail, .tail, .tail]
  else if b = 0xf4 then some [⟨0x80, 0x8f⟩, .tail, .tail]
  else none

/-! ## The first fault -/

/-- Where a byte string stops being UTF-8. -/
structure Fault where
  /-- The number of bytes before the fault. -/
  index : Nat
  /-- The number of bytes that no text can hold at this place, or `none` when the text ends inside
  a character. -/
  length? : Option Nat
deriving DecidableEq, Repr

/-- Reads on with `seen` bytes of the character that starts at `start`, to which `owed` bytes are
still missing. The result is the first fault, or the end of the bytes when there is none. -/
def faultFrom (start seen : Nat) (owed : List Range) : Bytes → Fault
  | [] => ⟨start, none⟩
  | b :: rest =>
    match owed with
    | [] =>
      match following b with
      | none => ⟨start, some 1⟩
      | some [] => faultFrom (start + 1) 0 [] rest
      | some owed => faultFrom start 1 owed rest
    | [r] => if r.admits b then faultFrom (start + seen + 1) 0 [] rest else ⟨start, some seen⟩
    | r :: owed => if r.admits b then faultFrom start (seen + 1) owed rest else ⟨start, some seen⟩

/-- The first fault of bytes that are not UTF-8. -/
def fault (data : Bytes) : Fault := faultFrom 0 0 [] data

/-- The text that `data` spells, or where it stops being text. -/
def decode (data : Bytes) : Except Fault String :=
  match String.fromUTF8? data.toByteArray with
  | some text => .ok text
  | none => .error (fault data)

/-- The wording of a fault. -/
def Fault.message (f : Fault) : String :=
  match f.length? with
  | some n => "invalid utf-8 sequence of " ++ toString n ++ " bytes from index " ++ toString f.index
  | none => "incomplete utf-8 byte sequence from index " ++ toString f.index

/-! ## Text with replacements -/

/-- What stands for a broken part of a text. -/
def replacement : Char := Char.ofNat 0xfffd

/-- The bits of a character's first byte that belong to its code point. -/
def leadBits (b : UInt8) : Nat :=
  if b < 0x80 then b.toNat
  else if b < 0xe0 then b.toNat % 32
  else if b < 0xf0 then b.toNat % 16
  else b.toNat % 8

/-- Reads on inside a character whose bits so far are `value` and to which `owed` bytes are
missing. A byte that cannot continue the character ends it with a replacement and is then read as
the first byte of the next one. -/
def lossyFrom (value : Nat) (owed : List Range) : Bytes → List Char
  | [] => if owed.isEmpty then [] else [replacement]
  | b :: rest =>
    let start (_ : Unit) : List Char :=
      match following b with
      | none => replacement :: lossyFrom 0 [] rest
      | some [] => Char.ofNat b.toNat :: lossyFrom 0 [] rest
      | some owed => lossyFrom (leadBits b) owed rest
    match owed with
    | [] => start ()
    | r :: owed =>
      if r.admits b then
        let value := 64 * value + b.toNat % 64
        if owed.isEmpty then Char.ofNat value :: lossyFrom 0 [] rest else lossyFrom value owed rest
      else replacement :: start ()

/-- The text of `data` with a replacement character for each part that is not UTF-8. -/
def lossy (data : Bytes) : String := String.ofList (lossyFrom 0 [] data)

end SampleTap.Utf8
