import SampleTap.Proofs.Message
import SampleTap.Proofs.Socket.Replies

/-!
# Left-over messages in a reply

A request that was not read to its end leaves messages on the socket. `Message.Mixed` says that a
datagram is another one with such messages mixed in, and `Socket.Mixed` says it of a queue, where
whole datagrams of them may be added as well.

Messages of another request (`Message.Stale`) change nothing: they are passed over inside a datagram
(`Message.Mixed.run`), and a datagram of nothing else is like an empty one. So a reply among them is
read as it is without them (`Socket.Mixed.replies`).
-/

namespace SampleTap

variable {σ β : Type}

/-! ## In a datagram -/

namespace Message

/-- Whether a message answers a request, but not the one numbered `seq`. -/
def Stale (seq : UInt32) (m : Message) : Prop := m.header.seq ≠ 0 ∧ m.header.seq ≠ seq

/-- A stale message is not relevant to the exchange. -/
theorem Stale.not_relevant {seq : UInt32} {m : Message} (h : Stale seq m) :
    Batch.relevant (some seq) m.header = false := by
  simp [Batch.relevant, h.1, h.2]

/-- Whether a datagram is `data` with messages mixed in: in front of padded messages of it, or
behind them in front of the rest. -/
inductive Mixed (left : Message → Prop) : Bytes → Bytes → Prop
  | rest (data : Bytes) : Mixed left data data
  | keep {first data data' : Bytes} {m : Message} : Padded first m → Mixed left data data' →
      Mixed left (first ++ data) (first ++ data')
  | add {first data data' : Bytes} {m : Message} : Padded first m → left m →
      Mixed left data data' → Mixed left data (first ++ data')
  /-- What is added at the very end may lack its padding. -/
  | last {bytes : Bytes} {m : Message} : step bytes = .found m [] → left m → Mixed left [] bytes

theorem Mixed.mono {left left' : Message → Prop} (himp : ∀ m, left m → left' m)
    {data data' : Bytes} (h : Mixed left data data') : Mixed left' data data' := by
  induction h with
  | rest data => exact .rest data
  | keep hfirst _ ih => exact .keep hfirst ih
  | add hfirst hleft _ ih => exact .add hfirst (himp _ hleft) ih
  | last hstep hleft => exact .last hstep (himp _ hleft)

/-- Messages that are mixed in only make a datagram longer. -/
theorem Mixed.length_le {left : Message → Prop} {data data' : Bytes} (h : Mixed left data data') :
    data.length ≤ data'.length := by
  induction h with
  | rest data => exact Nat.le_refl _
  | keep _ _ ih => simpa using ih
  | add _ _ _ ih =>
    rw [List.length_append]
    omega
  | last _ _ => exact Nat.zero_le _

/-- Stale messages in a datagram of a reply are passed over. -/
theorem Mixed.run {seq : UInt32} {data data' : Bytes} (h : Mixed (Stale seq) data data')
    (visit : σ → Message → σ × Except Error (Flow β)) (x : σ) :
    Batch.run (some seq) visit x data' = Batch.run (some seq) visit x data := by
  simp only [Batch.run]
  induction h generalizing x with
  | rest data => rfl
  | keep hfirst _ ih =>
    rw [hfirst.split_append, hfirst.split_append]
    simp only [Batch.runMessages]
    split_ifs
    · exact ih x
    · exact ih x
    · rfl
    · rfl
    · -- The visitor goes on or it does not, and what it has seen is the same.
      split
      · rfl
      · rfl
      · exact ih _
  | add hfirst hstale _ ih =>
    rw [hfirst.split_append]
    simp only [Batch.runMessages, hstale.not_relevant, Bool.not_false, if_true]
    exact ih x
  | last hstep hstale =>
    rw [split_eq, hstep]
    simp only [split_nil, Batch.runMessages, hstale.not_relevant, Bool.not_false, if_true]

end Message

/-! ## In a queue -/

namespace Socket

/-- Whether a queue is another one with messages mixed in, inside its datagrams or as datagrams of
their own. Each datagram that is touched still fits the receive buffer. -/
inductive Mixed (left : Message → Prop) (capacity : Option Nat) :
    List Arrival → List Arrival → Prop
  | nil : Mixed left capacity [] []
  | same (arrival : Arrival) {queue queue' : List Arrival} : Mixed left capacity queue queue' →
      Mixed left capacity (arrival :: queue) (arrival :: queue')
  | inside {data data' : Bytes} {queue queue' : List Arrival} : Message.Mixed left data data' →
      read capacity (.datagram data') = .ok data' → Mixed left capacity queue queue' →
      Mixed left capacity (.datagram data :: queue) (.datagram data' :: queue')
  | extra {data : Bytes} {queue queue' : List Arrival} : Message.Mixed left [] data →
      read capacity (.datagram data) = .ok data → Mixed left capacity queue queue' →
      Mixed left capacity queue (.datagram data :: queue')

theorem Mixed.refl (left : Message → Prop) (capacity : Option Nat) (queue : List Arrival) :
    Mixed left capacity queue queue := by
  induction queue with
  | nil => exact .nil
  | cons arrival rest ih => exact .same arrival ih

theorem Mixed.mono {left left' : Message → Prop} (himp : ∀ m, left m → left' m)
    {capacity : Option Nat} {queue queue' : List Arrival} (h : Mixed left capacity queue queue') :
    Mixed left' capacity queue queue' := by
  induction h with
  | nil => exact .nil
  | same arrival _ ih => exact .same arrival ih
  | inside hmixed hfits _ ih => exact .inside (hmixed.mono himp) hfits ih
  | extra hmixed hfits _ ih => exact .extra (hmixed.mono himp) hfits ih

/-- A datagram that is no longer than one that fits fits as well. -/
theorem read_of_le {capacity : Option Nat} {data data' : Bytes}
    (hfits : read capacity (.datagram data') = .ok data') (hle : data.length ≤ data'.length) :
    read capacity (.datagram data) = .ok data := by
  cases capacity with
  | none => rfl
  | some n =>
    simp only [read] at hfits ⊢
    split_ifs at hfits with hlong
    · rw [if_pos (Nat.le_trans hle hlong)]

/-- Among stale messages a reply is read as it is without them. -/
theorem Mixed.replies {seq : UInt32} {capacity : Option Nat} {queue queue' : List Arrival}
    (h : Mixed (Message.Stale seq) capacity queue queue') (explain : Error → Error)
    (visit : σ → Message → σ × Except Error (Flow β)) (x : σ) :
    (replies seq explain visit capacity x queue').state =
        (replies seq explain visit capacity x queue).state ∧
      (replies seq explain visit capacity x queue').result =
        (replies seq explain visit capacity x queue).result := by
  induction h generalizing x with
  | nil => exact ⟨rfl, rfl⟩
  | same arrival _ ih =>
    simp only [Socket.replies]
    split
    · exact ⟨rfl, rfl⟩
    · exact ⟨rfl, rfl⟩
    · exact ih _
  | @inside data data' queue queue' hmixed hfits _ ih =>
    have hanswer : answer seq explain visit capacity x (.datagram data') =
        answer seq explain visit capacity x (.datagram data) := by
      simp only [answer, hfits, read_of_le hfits hmixed.length_le, hmixed.run]
    simp only [Socket.replies, hanswer]
    split
    · exact ⟨rfl, rfl⟩
    · exact ⟨rfl, rfl⟩
    · exact ih _
  | @extra data queue queue' hmixed hfits _ ih =>
    have hempty : Batch.run (some seq) visit x [] = (x, .ok .more) := by
      simp [Batch.run, Message.split_nil, Batch.runMessages]
    have hanswer : answer seq explain visit capacity x (.datagram data) = (x, .ok .again) := by
      simp only [answer, hfits, hmixed.run, hempty]
    simp only [Socket.replies, hanswer]
    exact ih x

/-- Stale messages that are mixed into a queue do not change the replies. -/
theorem Mixed.repliesAlike {seq : UInt32} {capacity : Option Nat} {queue queue' : List Arrival}
    (h : Mixed (Message.Stale seq) capacity queue queue') :
    RepliesAlike seq capacity queue queue' where
  visited explain visit x := (h.replies explain visit x).1
  result explain visit x := (h.replies explain visit x).2

end Socket
end SampleTap
