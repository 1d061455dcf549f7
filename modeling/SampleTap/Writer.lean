import SampleTap.Action

/-!
# Writers

A destination of bytes that may take only so many of them, and that may hold bytes back until it is
flushed or released. The trace of an action on a writer is what reached the destination, piece by
piece; `trace_emit` says that this is always the beginning of what was to be written.
-/

namespace SampleTap

/-- A destination of bytes. -/
structure Writer where
  /-- How many more bytes the destination takes; `none` means any number. -/
  room : Option Nat := none
  /-- Whether bytes wait for a flush. -/
  buffered : Bool := false
  /-- The bytes that wait. -/
  held : Bytes := []
deriving DecidableEq, Repr

namespace Writer

/-- The actions on writers. -/
abbrev Act (α : Type) : Type := Action Bytes Writer α

/-- Passes bytes to the destination. One that is short of room takes what it can and fails. -/
def emit (data : Bytes) : Act Unit := fun w =>
  match w.room with
  | none => ⟨w, [data], .ok ()⟩
  | some n =>
    if data.length ≤ n then ⟨{ w with room := some (n - data.length) }, [data], .ok ()⟩
    else ⟨{ w with room := some 0 }, [data.take n], .error (.io .writerFull)⟩

/-- What reaches the destination is the beginning of what was to be written, and all of it when the
action succeeds. -/
theorem trace_emit (w : Writer) (data : Bytes) :
    (emit data w).trace.flatten <+: data ∧
      ((emit data w).result = .ok () → (emit data w).trace.flatten = data) := by
  unfold emit
  split
  · simp
  · split
    · simp
    · simpa using List.take_prefix _ data

/-- Writes bytes, or holds them back until a flush. -/
def put (data : Bytes) : Act Unit := fun w =>
  if w.buffered then ⟨{ w with held := w.held ++ data }, [], .ok ()⟩ else emit data w

/-- Passes on the bytes that wait. -/
def flush : Act Unit := fun w =>
  if w.held.isEmpty then ⟨w, [], .ok ()⟩ else emit w.held { w with held := [] }

end Writer

end SampleTap
