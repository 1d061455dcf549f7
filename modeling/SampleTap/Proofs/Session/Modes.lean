import SampleTap.Proofs.Session.Calls

/-!
# Non-blocking dispatch as repeated blocking dispatch

`Session.dispatchEach` dispatches in blocking mode, one arrival at a time, for as long as every call
asks to go on. On a queue of items (`Arrival.isItem`: datagrams that are not empty, and failed
receives that do not mean an empty queue) this is what one non-blocking dispatch does: the same
calls of the handlers, the same result and the same arrivals left
(`dispatch_nonBlocking_eq_dispatchEach`).
-/

namespace SampleTap

variable {σ β : Type}

/-- Whether a receive finds in an arrival a datagram that is not empty, or a failure other than
that of an empty queue. -/
def Arrival.isItem (capacity : Option Nat) (arrival : Arrival) : Bool :=
  match Socket.read capacity arrival with
  | .ok data => !data.isEmpty
  | .error e => !e.isWouldBlock

namespace Session

/-- Dispatches in blocking mode up to a number of times, until a call does not ask to go on. -/
def dispatchEach (h : Handlers σ β) : Nat → Action Effect (Session × σ) (Flow β)
  | 0 => pure .proceed
  | n + 1 => do
    match ← dispatch .blocking h with
    | .proceed => dispatchEach h n
    | .stop value => return .stop value

/-- Whether the event connection never fails to switch modes. -/
def CanSwitch (s : Session) : Prop := ∀ n, s.event.socket.faults n .setMode = none

/-! ## One call at a time -/

/-- A blocking dispatch that proceeds is followed by the others. -/
theorem dispatchEach_of_proceed {h : Handlers σ β} {sx : Session × σ}
    (hfirst : (dispatch .blocking h sx).result = .ok .proceed) (n : Nat) :
    (dispatchEach h (n + 1) sx).state =
        (dispatchEach h n (dispatch .blocking h sx).state).state ∧
      (dispatchEach h (n + 1) sx).result =
        (dispatchEach h n (dispatch .blocking h sx).state).result := by
  simp [dispatchEach, bind, Action.bind, hfirst, Ran.after]

/-- A blocking dispatch that stops or fails is the last. -/
theorem dispatchEach_of_stop {h : Handlers σ β} {sx : Session × σ}
    (hfirst : (dispatch .blocking h sx).result ≠ .ok .proceed) (n : Nat) :
    (dispatchEach h (n + 1) sx).state = (dispatch .blocking h sx).state ∧
      (dispatchEach h (n + 1) sx).result = (dispatch .blocking h sx).result := by
  match hr : (dispatch .blocking h sx).result with
  | .error e => simp [dispatchEach, bind, Action.bind, hr]
  | .ok .proceed => exact absurd hr hfirst
  | .ok (.stop value) => simp [dispatchEach, bind, Action.bind, pure, Action.pure, hr, Ran.after]

/-- Calls that do not end by asking to go on end with one call, behind calls that all did. -/
theorem exists_last_of_dispatchEach {h : Handlers σ β} {n : Nat} {sx : Session × σ}
    (hstop : (dispatchEach h n sx).result ≠ .ok .proceed) :
    ∃ k < n, (dispatchEach h k sx).result = .ok .proceed ∧
      (dispatch .blocking h (dispatchEach h k sx).state).state = (dispatchEach h n sx).state ∧
      (dispatch .blocking h (dispatchEach h k sx).state).result = (dispatchEach h n sx).result := by
  induction n generalizing sx with
  | zero => exact absurd rfl hstop
  | succ n ih =>
    by_cases hfirst : (dispatch .blocking h sx).result = .ok .proceed
    · obtain ⟨hstate, hresult⟩ := dispatchEach_of_proceed hfirst n
      rw [hresult] at hstop
      obtain ⟨k, hk, hgo, hlast, hend⟩ := ih hstop
      obtain ⟨hstate', hresult'⟩ := dispatchEach_of_proceed hfirst k
      refine ⟨k + 1, Nat.succ_lt_succ hk, ?_, ?_, ?_⟩
      · rw [hresult', hgo]
      · rw [hstate', hstate, hlast]
      · rw [hstate', hresult, hend]
    · obtain ⟨hstate, hresult⟩ := dispatchEach_of_stop hfirst n
      exact ⟨0, Nat.succ_pos n, rfl, hstate.symm, hresult.symm⟩

/-- A blocking dispatch takes one arrival and leaves the connection as able to switch modes. -/
theorem dispatch_blocking_takes_one (h : Handlers σ β) {s : Session} (x : σ) {arrival : Arrival}
    {rest : List Arrival} (hswitch : s.CanSwitch)
    (hqueue : s.event.socket.queue = arrival :: rest) :
    (dispatch .blocking h (s, x)).state.1.event.socket.queue = rest ∧
      (dispatch .blocking h (s, x)).state.1.CanSwitch := by
  obtain ⟨hstate, -⟩ := dispatch_blocking_cons h x (hswitch _) hqueue
  rw [hstate]
  exact ⟨rfl, hswitch⟩

/-- Calls that all ask to go on take one arrival each. -/
theorem queue_dispatchEach {h : Handlers σ β} {k : Nat} {s : Session} {x : σ}
    (hswitch : s.CanSwitch) (hk : k ≤ s.event.socket.queue.length)
    (hgo : (dispatchEach h k (s, x)).result = .ok .proceed) :
    (dispatchEach h k (s, x)).state.1.event.socket.queue = s.event.socket.queue.drop k ∧
      (dispatchEach h k (s, x)).state.1.CanSwitch := by
  induction k generalizing s x with
  | zero => exact ⟨rfl, hswitch⟩
  | succ k ih =>
    cases hqueue : s.event.socket.queue with
    | nil => simp [hqueue] at hk
    | cons arrival rest =>
      obtain ⟨hrest, hswitch'⟩ := dispatch_blocking_takes_one h x hswitch hqueue
      by_cases hfirst : (dispatch .blocking h (s, x)).result = .ok .proceed
      · obtain ⟨hstate, hresult⟩ := dispatchEach_of_proceed hfirst k
        rw [hresult] at hgo
        have hk' : k ≤ (dispatch .blocking h (s, x)).state.1.event.socket.queue.length := by
          rw [hrest]
          simpa [hqueue] using hk
        obtain ⟨hdrop, hswitch''⟩ := ih hswitch' hk' hgo
        rw [hstate, List.drop_succ_cons, ← hrest]
        exact ⟨hdrop, hswitch''⟩
      · rw [(dispatchEach_of_stop hfirst k).2] at hgo
        exact absurd hgo hfirst

/-! ## A pass over items -/

/-- What the mode decides is only what becomes of a receive that would block. -/
theorem reactTo_blocking_eq {s : Session} {h : Handlers σ β} {x : σ} {arrival : Arrival}
    (hitem : arrival.isItem s.event.socket.capacity) :
    s.reactTo .blocking h x arrival = s.reactTo .nonBlocking h x arrival := by
  -- The modes differ only in what they make of a blocked receive, and an item is none.
  unfold Arrival.isItem at hitem
  simp only [reactTo, Socket.reaction]
  cases hread : Socket.read s.event.socket.capacity arrival with
  | error e =>
    simp only [hread, Bool.not_eq_true'] at hitem
    simp [hitem]
  | ok data => rfl

/-- Only a visitor ends a pass over items without an error, and it does not ask to go on. -/
theorem reactTo_over_ne_proceed {s : Session} {h : Handlers σ β} {x : σ} {arrival : Arrival}
    {flow : Flow β} (hitem : arrival.isItem s.event.socket.capacity)
    (hover : (s.reactTo .nonBlocking h x arrival).2 = .ok (.over flow)) : flow ≠ .proceed := by
  unfold Arrival.isItem at hitem
  simp only [reactTo, Socket.reaction] at hover
  cases hread : Socket.read s.event.socket.capacity arrival with
  | error e =>
    simp only [hread, Bool.not_eq_true'] at hitem hover
    simp [hitem] at hover
  | ok data =>
    simp only [hread, Bool.not_eq_true'] at hitem hover
    rw [if_neg (by simp [hitem])] at hover
    rcases hrun : Batch.run none (h.onCommand.onType s.event.family.id) x data with
      ⟨y, e | _ | _ | value⟩
    · simp [hrun] at hover
    · simp [hrun] at hover
    · simp [hrun] at hover
    · simp only [hrun, Except.ok.injEq, Socket.Turn.over.injEq] at hover
      simp [← hover]

/-- Blocking dispatches, one for each item, do what a pass over the items does. -/
theorem dispatchEach_eq_passOver (h : Handlers σ β) {s : Session} (x : σ) (hswitch : s.CanSwitch)
    (hitems : ∀ arrival ∈ s.event.socket.queue, arrival.isItem s.event.socket.capacity) :
    let each := dispatchEach h s.event.socket.queue.length (s, x)
    let whole := s.passOver h x s.event.socket.queue
    each.state.2 = whole.state ∧ each.state.1.event.socket.queue = whole.unread ∧
      each.result = whole.result := by
  generalize hqueue : s.event.socket.queue = queue at hitems
  -- The induction is on the queue: a blocking dispatch leaves the session over its tail.
  induction queue generalizing s x with
  | nil => exact ⟨rfl, hqueue, rfl⟩
  | cons arrival rest ih =>
    have hitem := hitems arrival List.mem_cons_self
    obtain ⟨hstate, hresult⟩ := dispatch_blocking_cons h x (hswitch _) hqueue
    rw [reactTo_blocking_eq hitem] at hstate hresult
    simp only [List.length_cons]
    by_cases hagain : (s.reactTo .nonBlocking h x arrival).2 = .ok .again
    · have hgo : (dispatch .blocking h (s, x)).result = .ok .proceed := by
        rw [hresult, hagain]
        rfl
      obtain ⟨hstate', hresult'⟩ := dispatchEach_of_proceed hgo rest.length
      rw [hstate', hresult', hstate, passOver_cons_of_again rest hagain]
      exact ih _ hswitch rfl fun a ha => hitems a (List.mem_cons_of_mem _ ha)
    · have hstop : (dispatch .blocking h (s, x)).result ≠ .ok .proceed := by
        intro hgo
        rw [hresult] at hgo
        rcases hanswer : (s.reactTo .nonBlocking h x arrival).2 with e | _ | flow
        · simp [hanswer, Except.map] at hgo
        · exact hagain hanswer
        · rw [hanswer] at hgo
          have hflow : flow = .proceed := Except.ok.inj hgo
          exact reactTo_over_ne_proceed hitem hanswer hflow
      -- Both end at this arrival, with the same answer.
      obtain ⟨hstate', hresult'⟩ := dispatchEach_of_stop hstop rest.length
      rw [hstate', hresult', hstate, hresult, passOver_cons_of_ne_again rest hagain]
      exact ⟨rfl, rfl, rfl⟩

/-! ## The two modes -/

/-- A non-blocking dispatch, told by blocking ones. -/
structure DispatchesEach (h : Handlers σ β) (s : Session) (x : σ) : Prop where
  /-- The handlers end up in the same state. -/
  state : (dispatch .nonBlocking h (s, x)).state.2 =
    (dispatchEach h s.event.socket.queue.length (s, x)).state.2
  /-- The handlers get the same calls in the same order. -/
  calls : (dispatch .nonBlocking h.recording (s, (x, []))).state.2.2 =
    (dispatchEach h.recording s.event.socket.queue.length (s, (x, []))).state.2.2
  result : (dispatch .nonBlocking h (s, x)).result =
    (dispatchEach h s.event.socket.queue.length (s, x)).result
  /-- The same arrivals are left. -/
  queue : (dispatch .nonBlocking h (s, x)).state.1.event.socket.queue =
    (dispatchEach h s.event.socket.queue.length (s, x)).state.1.event.socket.queue
  /-- Without a stop nothing is left. -/
  drained : (dispatch .nonBlocking h (s, x)).result = .ok .proceed →
    (dispatch .nonBlocking h (s, x)).state.1.event.socket.queue = []
  /-- What stops it is the answer of the blocking call on one item, the last that is taken. -/
  stopped : (dispatch .nonBlocking h (s, x)).result ≠ .ok .proceed →
    ∃ k < s.event.socket.queue.length,
      (dispatchEach h k (s, x)).result = .ok .proceed ∧
      (dispatch .blocking h (dispatchEach h k (s, x)).state).result =
        (dispatch .nonBlocking h (s, x)).result ∧
      (dispatch .nonBlocking h (s, x)).state.1.event.socket.queue =
        s.event.socket.queue.drop (k + 1)

/-- On a queue of items, a non-blocking dispatch is blocking dispatches on one item after another,
up to the first that does not ask to go on. -/
theorem dispatch_nonBlocking_eq_dispatchEach (h : Handlers σ β) (s : Session) (x : σ)
    (hswitch : s.CanSwitch)
    (hitems : ∀ arrival ∈ s.event.socket.queue, arrival.isItem s.event.socket.capacity) :
    DispatchesEach h s x := by
  obtain ⟨hstate, hqueue, hresult⟩ := dispatchEach_eq_passOver h x hswitch hitems
  obtain ⟨_, hall, hallresult⟩ := dispatch_nonBlocking h x (hswitch _)
  have hsame : (dispatch .nonBlocking h (s, x)).result =
      (dispatchEach h s.event.socket.queue.length (s, x)).result := by rw [hallresult, hresult]
  have hleft : (dispatch .nonBlocking h (s, x)).state.1.event.socket.queue =
      (dispatchEach h s.event.socket.queue.length (s, x)).state.1.event.socket.queue := by
    rw [hall, hqueue]
    rfl
  refine ⟨by rw [hall, hstate], ?_, hsame, hleft, fun hgo => ?_, fun hstop => ?_⟩
  -- The calls are what recording handlers have written down in the end.
  · obtain ⟨_, hrec, -⟩ := dispatch_nonBlocking h.recording (x, []) (hswitch _)
    rw [hrec, (dispatchEach_eq_passOver h.recording (x, []) hswitch hitems).1]
  · rw [hsame] at hgo
    rw [hleft, (queue_dispatchEach hswitch (Nat.le_refl _) hgo).1, List.drop_length]
  · rw [hsame] at hstop
    obtain ⟨k, hk, hgo, hlast, hend⟩ := exists_last_of_dispatchEach hstop
    obtain ⟨hdrop, hswitch'⟩ := queue_dispatchEach hswitch (Nat.le_of_lt hk) hgo
    have hcons := List.drop_eq_getElem_cons hk
    rw [← hdrop] at hcons
    refine ⟨k, hk, hgo, by rw [hend, hsame], ?_⟩
    -- The last call takes one arrival from behind those of the calls before it.
    rw [hleft, ← hlast]
    exact (dispatch_blocking_takes_one h _ hswitch' hcons).1

theorem dispatch_nonBlocking_eq_dispatchEach_failure :
    let s := withArrivals
      [.datagram (notification 7), .failure 105, .datagram (notification 8)]
    s.CanSwitch ∧
      (∀ arrival ∈ s.event.socket.queue, arrival.isItem s.event.socket.capacity) ∧
      DispatchesEach .collecting s [] :=
  have hswitch := fun _ => rfl
  have hitems := by decide +kernel
  ⟨hswitch, hitems, dispatch_nonBlocking_eq_dispatchEach .collecting _ _ hswitch hitems⟩

end Session

end SampleTap
