/-!
# Decimal numerals

Reading a decimal numeral into a range of integers. A sign may stand in front, a minus sign only
where the range has negative numbers. The digits are read from left to right, and the first that is
no digit or leads out of the range decides the fault.
-/

namespace SampleTap.Numeral

/-- Why a text is no numeral of a range. -/
inductive Fault
  | empty
  | notDigit
  | tooLarge
  | tooSmall
deriving DecidableEq, Repr

/-- The wording of a fault. -/
def Fault.message : Fault → String
  | empty => "cannot parse integer from empty string"
  | notDigit => "invalid digit found in string"
  | tooLarge => "number too large to fit in target type"
  | tooSmall => "number too small to fit in target type"

/-- Reads digits behind those that make up `value`, which may not go above `most`. -/
def digitsFrom (most : Nat) (above : Fault) (value : Nat) : List Char → Except Fault Nat
  | [] => .ok value
  | c :: rest =>
    if c.isDigit then
      let value := 10 * value + (c.toNat - '0'.toNat)
      if most < value then .error above else digitsFrom most above value rest
    else .error .notDigit

/-- Reads at least one digit. -/
def digits (most : Nat) (above : Fault) (cs : List Char) : Except Fault Nat :=
  if cs.isEmpty then .error .notDigit else digitsFrom most above 0 cs

/-- The integer of a numeral, from `-least` to `most`; without `least?` there is no minus sign. -/
def read (least? : Option Nat) (most : Nat) (text : String) : Except Fault Int :=
  match text.toList with
  | [] => .error .empty
  | '+' :: cs => (digits most .tooLarge cs).map Int.ofNat
  | '-' :: cs =>
    match least? with
    | some least => (digits least .tooSmall cs).map fun n => -Int.ofNat n
    | none => .error .notDigit
  | cs => (digits most .tooLarge cs).map Int.ofNat

end SampleTap.Numeral
