import SampleTap.CommandLine

/-!
# Replays

A recorded exchange as text, one arrival a line: `event` or `control`, a blank, and the datagram in
hexadecimal digits. A replay runs the program against such a record. Interfaces have no names then,
and every frame carries the time zero.
-/

namespace SampleTap.CommandLine

/-- The value of a hexadecimal digit. -/
def hexDigitValue? (c : Char) : Option Nat :=
  if c.isDigit then some (c.toNat - '0'.toNat)
  else if 'a' ≤ c ∧ c ≤ 'f' then some (10 + (c.toNat - 'a'.toNat))
  else none

/-- The bytes of a text of hexadecimal digits, two a byte. -/
def hexBytes? : List Char → Option Bytes
  | [] => some []
  | high :: low :: rest => do
    let high ← hexDigitValue? high
    let low ← hexDigitValue? low
    let rest ← hexBytes? rest
    return UInt8.ofNat (16 * high + low) :: rest
  | [_] => none

/-- A recorded exchange: what each of the two sockets receives. -/
structure Replay where
  event : List Arrival := []
  control : List Arrival := []
deriving DecidableEq, Repr

namespace Replay

/-- The arrival that a line records, and its side. Other lines record nothing. -/
def readLine (line : String) : Option (Side × Arrival) :=
  match line.trimAscii.toString.splitOn " " with
  | [side, digits] => do
    let data ← hexBytes? digits.toList
    match side with
    | "event" => return (.event, .datagram data)
    | "control" => return (.control, .datagram data)
    | _ => none
  | _ => none

/-- The exchange that lines record. -/
def ofLines (lines : List String) : Replay :=
  let arrivals := lines.filterMap readLine
  let onSide (side : Side) : List Arrival :=
    arrivals.filterMap fun (s, arrival) => if s = side then some arrival else none
  ⟨onSide .event, onSide .control⟩

/-- The surroundings of a program that meets the exchange. -/
def surroundings (r : Replay) : Surroundings where
  event := { queue := r.event }
  control := { queue := r.control }
  interfaces := fun _ => none
  clock := fun _ => ⟨0, 0⟩

end Replay

end SampleTap.CommandLine
