import SampleTap.Proofs.Socket.Pass

/-!
# Requests and their replies

Sending a request leaves alone what a socket has to receive (`send_eq`, `result_send_congr`). The
loop that reads the reply is said without sockets: `Socket.answer` is what it makes of one arrival,
and `Socket.replies` folds that over a queue until an arrival ends the reply
(`exchange_eq_replies`). A reply that has no end in the queue blocks.

So whether two queues come to the same for every request (`Socket.RepliesAlike`) is a statement
about the arrivals in them.
-/

namespace SampleTap
namespace Socket

variable {σ β : Type} {seq : UInt32} {explain : Error → Error}
  {visit : σ → Message → σ × Except Error (Flow β)}

/-! ## Sending -/

/-- Sending changes nothing of a socket but the number of its calls. -/
theorem send_eq (data : Bytes) (s : Socket) :
    send data s = ⟨{ s with made := s.made + 1 }, [.sent data], (send data s).result⟩ := by
  unfold send call
  cases s.faults s.made .send with
  | some errno => rfl
  | none => cases s.shortSend <;> rfl

/-- Whether sending succeeds does not depend on what a socket has to receive or on its next
sequence number. -/
theorem result_send_congr (data : Bytes) (s : Socket) (queue : List Arrival) (ready : Bool)
    (nextSeq : UInt32) :
    (send data { s with queue, ready, nextSeq }).result = (send data s).result := by
  unfold send call
  cases s.faults s.made .send with
  | some errno => rfl
  | none => cases s.shortSend <;> rfl

/-! ## Receiving -/

/-- What reading a reply makes of an arrival: the visitor's state, and whether the reply goes on. -/
def answer (seq : UInt32) (explain : Error → Error)
    (visit : σ → Message → σ × Except Error (Flow β)) (capacity : Option Nat) (x : σ)
    (arrival : Arrival) : σ × Except Error (Turn β) :=
  match read capacity arrival with
  | .error e => (x, .error e)
  | .ok data =>
    match Batch.run (some seq) visit x data with
    | (x, .error e) => (x, .error (explain e))
    | (x, .ok (.stopped value)) => (x, .ok (.over (.stop value)))
    | (x, .ok .done) => (x, .ok (.over .proceed))
    | (x, .ok .more) => (x, .ok .again)

/-- Reads arrivals in order until one ends the reply. -/
def replies (seq : UInt32) (explain : Error → Error)
    (visit : σ → Message → σ × Except Error (Flow β)) (capacity : Option Nat) :
    σ → List Arrival → Outcome σ β
  | x, [] => ⟨x, [], .error (.os Errno.wouldBlock)⟩
  | x, arrival :: rest =>
    match answer seq explain visit capacity x arrival with
    | (x, .error e) => ⟨x, rest, .error e⟩
    | (x, .ok (.over flow)) => ⟨x, rest, .ok flow⟩
    | (x, .ok .again) => replies seq explain visit capacity x rest

theorem exchange_nil {s : Socket} {x : σ} (h : s.queue = []) :
    exchange seq explain visit s x =
      ⟨({ s with ready := false }, x), [.received], .error (.os Errno.wouldBlock)⟩ := by
  rw [exchange]
  split
  · rename_i hreceived
    rw [receive_nil h] at hreceived ⊢
    rw [← Except.error.inj hreceived]
  · rename_i hreceived
    simp [receive_nil h] at hreceived

/-- Reading a reply goes on behind an arrival that does not end it. -/
theorem exchange_cons {s : Socket} {x : σ} {arrival : Arrival} {rest : List Arrival}
    (h : s.queue = arrival :: rest) :
    exchange seq explain visit s x =
      match answer seq explain visit s.capacity x arrival with
      | (x, .error e) => ⟨(afterReceive s arrival rest, x), [.received], .error e⟩
      | (x, .ok (.over flow)) => ⟨(afterReceive s arrival rest, x), [.received], .ok flow⟩
      | (x, .ok .again) =>
        (exchange seq explain visit (afterReceive s arrival rest) x).after [.received] := by
  rw [exchange]
  split
  · rename_i e hreceived
    rw [receive_cons h] at hreceived ⊢
    simp only at hreceived
    simp only [answer, hreceived]
  · rename_i data hreceived
    simp only [receive_cons h] at hreceived ⊢
    simp only [answer, hreceived]
    rcases Batch.run (some seq) visit x data with ⟨y, e | _ | _ | value⟩ <;> rfl

/-- Reading a reply walks over the queue: it changes the queue and the readiness of the socket, and
nothing else. -/
theorem exchange_eq_replies (seq : UInt32) (explain : Error → Error)
    (visit : σ → Message → σ × Except Error (Flow β)) (s : Socket) (x : σ) :
    ∃ ready, (exchange seq explain visit s x).state =
        ({ s with queue := (replies seq explain visit s.capacity x s.queue).unread, ready },
          (replies seq explain visit s.capacity x s.queue).state) ∧
      (exchange seq explain visit s x).result =
        (replies seq explain visit s.capacity x s.queue).result := by
  generalize hq : s.queue = queue
  induction queue generalizing s x with
  | nil =>
    refine ⟨false, ?_, ?_⟩
    · simp [exchange_nil hq, replies, ← hq]
    · simp [exchange_nil hq, replies]
  | cons arrival rest ih =>
    rw [exchange_cons hq, replies]
    match answer seq explain visit s.capacity x arrival with
    | (y, .error e) => exact ⟨_, rfl, rfl⟩
    | (y, .ok (.over flow)) => exact ⟨_, rfl, rfl⟩
    | (y, .ok .again) =>
      obtain ⟨ready, hstate, hresult⟩ := ih (afterReceive s arrival rest) y rfl
      exact ⟨ready, hstate, hresult⟩

/-- Reading a reply only receives. -/
theorem trace_exchange (seq : UInt32) (explain : Error → Error)
    (visit : σ → Message → σ × Except Error (Flow β)) (s : Socket) (x : σ) :
    ∀ call ∈ (exchange seq explain visit s x).trace, call = .received := by
  generalize hq : s.queue = queue
  induction queue generalizing s x with
  | nil => simp [exchange_nil hq]
  | cons arrival rest ih =>
    rw [exchange_cons hq]
    match answer seq explain visit s.capacity x arrival with
    | (y, .error e) => simp
    | (y, .ok (.over flow)) => simp
    | (y, .ok .again) =>
      have hlater := ih (afterReceive s arrival rest) y rfl
      simpa [Ran.after] using hlater

/-! ## Queues that come to the same -/

/-- Whether the reply to the request numbered `seq` comes to the same from two queues. What a
visitor was shown, and in which order, is in its state. -/
structure RepliesAlike (seq : UInt32) (capacity : Option Nat) (queue queue' : List Arrival) :
    Prop where
  visited : ∀ {σ β : Type} (explain : Error → Error)
    (visit : σ → Message → σ × Except Error (Flow β)) (x : σ),
    (replies seq explain visit capacity x queue').state =
      (replies seq explain visit capacity x queue).state
  result : ∀ {σ β : Type} (explain : Error → Error)
    (visit : σ → Message → σ × Except Error (Flow β)) (x : σ),
    (replies seq explain visit capacity x queue').result =
      (replies seq explain visit capacity x queue).result

end Socket
end SampleTap
