import SampleTap.Proofs.Message.Batch
import SampleTap.Proofs.Socket.Replies

/-!
# Messages packed into datagrams

A reply of several messages arrives as datagrams, and where one datagram ends and the next begins is
the sender's choice. It does not matter:

* `Message.AllPadded.run_append` visits padded messages and then what is behind them, as one visit
  after the other;
* `replies_packed` says that reading the datagrams is visiting all their messages, and then reading
  on;
* so two packings of the same messages come to the same (`repliesAlike_packed`), as long as every
  datagram fits the receive buffer.
-/

namespace SampleTap

variable {σ β : Type}

/-! ## In a datagram -/

namespace Message

/-- Whether byte strings are one padded message each. -/
def AllPadded (messages : List Bytes) : Prop := ∀ bytes ∈ messages, ∃ m, Padded bytes m

theorem AllPadded.of_append {front back : List Bytes} (h : AllPadded (front ++ back)) :
    AllPadded front ∧ AllPadded back := by
  constructor
  · intro bytes hbytes
    exact h bytes (List.mem_append_left back hbytes)
  · intro bytes hbytes
    exact h bytes (List.mem_append_right front hbytes)

/-- A padded message is its bytes and its padding. -/
theorem Padded.eq_encode_append {bytes : Bytes} {m : Message} (h : Padded bytes m) :
    m.Counted ∧ ∃ padding, padding.length = m.gap ∧ bytes = m.encode ++ padding := by
  obtain ⟨hcounted, padding, rfl, -⟩ := step_eq_found_iff_encode.mp h.step
  have hlength := h.length
  rw [hcounted.length, ← length_encode_add_gap, List.length_append] at hlength
  exact ⟨hcounted, padding, Nat.add_left_cancel hlength, rfl⟩

/-- Padded messages in a row are packed. -/
theorem AllPadded.packed {messages : List Bytes} (h : AllPadded messages) :
    ∃ parsed, Packed parsed messages.flatten := by
  induction messages with
  | nil => exact ⟨[], .nil⟩
  | cons bytes rest ih =>
    obtain ⟨m, hpadded⟩ := h bytes List.mem_cons_self
    obtain ⟨hcounted, padding, hpadding, rfl⟩ := hpadded.eq_encode_append
    obtain ⟨parsed, hrest⟩ := ih fun bytes' hbytes' => h bytes' (List.mem_cons_of_mem _ hbytes')
    rw [List.flatten_cons]
    exact ⟨m :: parsed, .cons hcounted hpadding hrest⟩

/-- Padded messages are visited, and then, unless the visit ended, what is behind them. -/
theorem AllPadded.run_append {messages : List Bytes} (h : AllPadded messages) (back : Bytes)
    (seq? : Option UInt32) (visit : σ → Message → σ × Except Error (Flow β)) (x : σ) :
    Batch.run seq? visit x (messages.flatten ++ back) =
      match Batch.run seq? visit x messages.flatten with
      | (y, .ok .more) => Batch.run seq? visit y back
      | ended => ended := by
  obtain ⟨parsed, hpacked⟩ := h.packed
  exact Batch.run_append_of_packed hpacked back seq? visit x

end Message

/-! ## In a queue -/

namespace Socket

/-- A queue of messages that were packed into datagrams, with other arrivals behind them. -/
def packed (pieces : List (List Bytes)) (later : List Arrival) : List Arrival :=
  pieces.map (fun piece => .datagram piece.flatten) ++ later

/-- Whether each datagram of a packing fits the receive buffer. -/
def FitsBuffer (capacity : Option Nat) (pieces : List (List Bytes)) : Prop :=
  ∀ size, capacity = some size → ∀ piece ∈ pieces, piece.flatten.length ≤ size

/-- A datagram that fits the buffer is received whole. -/
theorem FitsBuffer.read {capacity : Option Nat} {pieces : List (List Bytes)} {piece : List Bytes}
    (h : FitsBuffer capacity pieces) (hpiece : piece ∈ pieces) :
    read capacity (.datagram piece.flatten) = .ok piece.flatten := by
  cases capacity with
  | none => rfl
  | some size => exact if_pos (h size rfl piece hpiece)

/-- What reading a reply comes to when its first messages were visited and other arrivals follow. -/
def readOn (seq : UInt32) (explain : Error → Error)
    (visit : σ → Message → σ × Except Error (Flow β)) (capacity : Option Nat)
    (later : List Arrival) : σ × Except Error (Batch β) → σ × Except Error (Flow β)
  | (x, .error e) => (x, .error (explain e))
  | (x, .ok (.stopped value)) => (x, .ok (.stop value))
  | (x, .ok .done) => (x, .ok .proceed)
  | (x, .ok .more) =>
    let outcome := replies seq explain visit capacity x later
    (outcome.state, outcome.result)

/-- Reading packed messages is visiting them all, and then reading on. -/
theorem replies_packed {capacity : Option Nat} {pieces : List (List Bytes)}
    (hpadded : Message.AllPadded pieces.flatten) (hfits : FitsBuffer capacity pieces)
    (later : List Arrival) (seq : UInt32) (explain : Error → Error)
    (visit : σ → Message → σ × Except Error (Flow β)) (x : σ) :
    ((replies seq explain visit capacity x (packed pieces later)).state,
        (replies seq explain visit capacity x (packed pieces later)).result) =
      readOn seq explain visit capacity later
        (Batch.run (some seq) visit x pieces.flatten.flatten) := by
  induction pieces generalizing x with
  | nil =>
    have hnothing : Batch.run (some seq) visit x [] = (x, .ok .more) := by
      simp [Batch.run, Message.split_nil, Batch.runMessages]
    show _ = readOn seq explain visit capacity later (Batch.run (some seq) visit x [])
    rw [hnothing]
    rfl
  | cons piece rest ih =>
    have hread := hfits.read (List.mem_cons_self (a := piece) (l := rest))
    obtain ⟨hfirst, hrest⟩ := hpadded.of_append
    have hlater := ih hrest fun size hsize piece' hpiece' =>
      hfits size hsize piece' (List.mem_cons_of_mem piece hpiece')
    have hqueue : packed (piece :: rest) later =
        .datagram piece.flatten :: packed rest later := rfl
    rw [hqueue, List.flatten_cons, List.flatten_append, hfirst.run_append, replies, answer, hread]
    dsimp only
    -- The first datagram ends the reply, or its messages were visited and the rest follows.
    rcases Batch.run (some seq) visit x piece.flatten with ⟨y, e | _ | _ | value⟩
    · rfl
    · exact hlater y
    · rfl
    · rfl

/-- Two packings of the same messages come to the same. -/
theorem repliesAlike_packed {capacity : Option Nat} {pieces pieces' : List (List Bytes)}
    (hpadded : Message.AllPadded pieces.flatten) (hsame : pieces'.flatten = pieces.flatten)
    (hfits : FitsBuffer capacity pieces) (hfits' : FitsBuffer capacity pieces')
    (later : List Arrival) (seq : UInt32) :
    RepliesAlike seq capacity (packed pieces later) (packed pieces' later) := by
  have hpair {σ β : Type} (explain : Error → Error)
      (visit : σ → Message → σ × Except Error (Flow β)) (x : σ) :=
    calc
      ((replies seq explain visit capacity x (packed pieces' later)).state,
          (replies seq explain visit capacity x (packed pieces' later)).result)
        = readOn seq explain visit capacity later
            (Batch.run (some seq) visit x pieces'.flatten.flatten) :=
          replies_packed (hsame ▸ hpadded) hfits' later seq explain visit x
      _ = readOn seq explain visit capacity later
            (Batch.run (some seq) visit x pieces.flatten.flatten) := by rw [hsame]
      _ = ((replies seq explain visit capacity x (packed pieces later)).state,
            (replies seq explain visit capacity x (packed pieces later)).result) :=
          (replies_packed hpadded hfits later seq explain visit x).symm
  constructor
  · intro σ β explain visit x
    exact congrArg Prod.fst (hpair explain visit x)
  · intro σ β explain visit x
    exact congrArg Prod.snd (hpair explain visit x)

end Socket
end SampleTap
