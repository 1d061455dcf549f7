import Mathlib.Tactic.SplitIfs
import SampleTap.Socket.Receiving

/-!
# Passes over a receive queue

A pump acts on the arrivals of a queue one after another. Here that is said without sockets:

* `Socket.reaction` is what one turn makes of an arrival, and `Socket.pass` folds it over a queue
  until an arrival ends the pass;
* `turn_cons` and `drain_eq_pass` say that the receiving loops do just that, and that they touch
  nothing of the socket but its queue and its readiness;
* `receipts` is what receiving gives, and `queue_of_receipts` says that receives which all succeed
  are of datagrams.

What an arrival does to a pass depends on the arrival, the receive buffer and the visitor alone, so
everything about the order of receives is a statement about lists.
-/

namespace SampleTap
namespace Socket

variable {σ β : Type}

/-! ## One arrival -/

/-- What a turn asks for, when it is the only one. -/
def Turn.flow : Turn β → Flow β
  | .again => .proceed
  | .over flow => flow

/-- What a turn makes of an arrival: the visitor's state, and whether the turn was the last. -/
def reaction (type : UInt16) (mode : Mode) (visit : CommandVisitor σ β) (capacity : Option Nat)
    (x : σ) (arrival : Arrival) : σ × Except Error (Turn β) :=
  match read capacity arrival with
  | .error e => (x, if mode = .nonBlocking ∧ e.isWouldBlock then .ok (.over .proceed) else .error e)
  | .ok data =>
    if data.isEmpty then (x, .ok (.over .proceed))
    else
      match Batch.run none (visit.onType type) x data with
      | (x, .error e) => (x, .error e)
      | (x, .ok (.stopped value)) => (x, .ok (.over (.stop value)))
      | (x, .ok _) => (x, .ok .again)

/-- The socket behind the receive of an arrival. -/
def afterReceive (s : Socket) (arrival : Arrival) (rest : List Arrival) : Socket :=
  { s with queue := rest, ready := arrival = .pause || s.ready && !rest.isEmpty }

theorem receive_nil {s : Socket} (h : s.queue = []) :
    receive s = ⟨{ s with ready := false }, [.received], .error (.os Errno.wouldBlock)⟩ := by
  simp [receive, h]

/-- A receive takes the first arrival off the queue. -/
theorem receive_cons {s : Socket} {arrival : Arrival} {rest : List Arrival}
    (h : s.queue = arrival :: rest) :
    receive s = ⟨afterReceive s arrival rest, [.received], read s.capacity arrival⟩ := by
  simp [receive, h, afterReceive]

/-- A receive that succeeds gives the datagram as it is. -/
theorem eq_datagram_of_read {capacity : Option Nat} {arrival : Arrival} {data : Bytes}
    (h : read capacity arrival = .ok data) : arrival = .datagram data := by
  cases arrival with
  | datagram data' =>
    simp only [read] at h
    split at h
    · split at h <;> simp_all
    · simp_all
  | failure errno => simp [read] at h
  | cut expected actual => simp [read] at h
  | pause => simp [read] at h

/-- A multicast datagram changes only the queue and the readiness of a socket. -/
theorem exists_multicast (data : Bytes) (s : Socket) :
    ∃ queue ready, (multicast data s).1 = { s with queue, ready } := by
  have hkept : ∃ queue ready, s = { s with queue, ready } := ⟨s.queue, s.ready, rfl⟩
  unfold multicast
  split
  · exact ⟨_, _, rfl⟩
  · split
    · exact hkept
    · split_ifs
      · exact hkept
      · exact ⟨_, _, rfl⟩

/-- A turn on an empty queue blocks. -/
theorem turn_nil {type : UInt16} {mode : Mode} {visit : CommandVisitor σ β} {s : Socket} {x : σ}
    (h : s.queue = []) :
    turn type mode visit (s, x) = ⟨({ s with ready := false }, x), [.received],
      if mode = .nonBlocking then .ok (.over .proceed) else .error (.os Errno.wouldBlock)⟩ := by
  have hblock : (Error.os Errno.wouldBlock).isWouldBlock = true := rfl
  simp [turn, receive_nil h, hblock]

/-- A turn takes the first arrival off the queue and reacts to it. -/
theorem turn_cons {type : UInt16} {mode : Mode} {visit : CommandVisitor σ β} {s : Socket} {x : σ}
    {arrival : Arrival} {rest : List Arrival} (h : s.queue = arrival :: rest) :
    turn type mode visit (s, x) =
      ⟨(afterReceive s arrival rest, (reaction type mode visit s.capacity x arrival).1),
        [.received], (reaction type mode visit s.capacity x arrival).2⟩ := by
  simp only [turn, receive_cons h, reaction]
  cases read s.capacity arrival with
  | error e => rfl
  | ok data =>
    dsimp only
    by_cases hempty : data.isEmpty
    · rw [if_pos hempty, if_pos hempty]
    · rw [if_neg hempty, if_neg hempty]
      split <;> simp_all

/-! ## All receives -/

/-- What receiving from a socket gives, time after time, until the queue is empty. -/
def receipts (s : Socket) : List (Except Error Bytes) :=
  s.queue.map (read s.capacity) ++ [.error (.os Errno.wouldBlock)]

theorem receipts_nil {s : Socket} (h : s.queue = []) :
    s.receipts = [.error (.os Errno.wouldBlock)] := by
  rw [receipts, h]
  rfl

theorem receipts_cons {s : Socket} {arrival : Arrival} {rest : List Arrival}
    (h : s.queue = arrival :: rest) :
    s.receipts = read s.capacity arrival :: (afterReceive s arrival rest).receipts := by
  rw [receipts, h]
  rfl

/-- Receives that all succeeded are of the datagrams at the front of the queue. -/
theorem queue_of_receipts {s : Socket} {datagrams : List Bytes}
    (h : datagrams.map .ok <+: s.receipts) :
    s.queue = datagrams.map .datagram ++ s.queue.drop datagrams.length := by
  generalize hqueue : s.queue = queue
  induction queue generalizing s datagrams with
  | nil =>
    cases datagrams with
    | nil => rfl
    | cons data later =>
      rw [receipts_nil hqueue, List.map_cons, List.cons_prefix_cons] at h
      simp at h
  | cons arrival rest ih =>
    cases datagrams with
    | nil => rfl
    | cons data later =>
      rw [receipts_cons hqueue, List.map_cons, List.cons_prefix_cons] at h
      have harrival : arrival = .datagram data := eq_datagram_of_read h.1.symm
      have hrest := ih h.2 rfl
      rw [harrival, List.map_cons, List.cons_append, List.length_cons, List.drop_succ_cons,
        ← hrest]

/-! ## A whole queue -/

/-- What a pass over a queue leaves. -/
structure Outcome (σ β : Type) where
  /-- The visitor's state. -/
  state : σ
  /-- The arrivals behind the one that ended the pass. -/
  unread : List Arrival
  result : Except Error (Flow β)

/-- Reacts to arrivals in order until one ends the pass, or until there are no more. -/
def pass (type : UInt16) (visit : CommandVisitor σ β) (capacity : Option Nat) :
    σ → List Arrival → Outcome σ β
  | x, [] => ⟨x, [], .ok .proceed⟩
  | x, arrival :: rest =>
    match reaction type .nonBlocking visit capacity x arrival with
    | (x, .error e) => ⟨x, rest, .error e⟩
    | (x, .ok (.over flow)) => ⟨x, rest, .ok flow⟩
    | (x, .ok .again) => pass type visit capacity x rest

theorem pass_cons_of_again {type : UInt16} {visit : CommandVisitor σ β} {capacity : Option Nat}
    {x : σ} {arrival : Arrival} (rest : List Arrival)
    (h : (reaction type .nonBlocking visit capacity x arrival).2 = .ok .again) :
    pass type visit capacity x (arrival :: rest) =
      pass type visit capacity (reaction type .nonBlocking visit capacity x arrival).1 rest := by
  rw [pass]
  rcases hreact : reaction type .nonBlocking visit capacity x arrival with ⟨y, e | _ | flow⟩ <;>
    simp_all

/-- An arrival that does not ask for another ends the pass. -/
theorem pass_cons_of_ne_again {type : UInt16} {visit : CommandVisitor σ β} {capacity : Option Nat}
    {x : σ} {arrival : Arrival} (rest : List Arrival)
    (h : (reaction type .nonBlocking visit capacity x arrival).2 ≠ .ok .again) :
    pass type visit capacity x (arrival :: rest) =
      ⟨(reaction type .nonBlocking visit capacity x arrival).1, rest,
        (reaction type .nonBlocking visit capacity x arrival).2.map Turn.flow⟩ := by
  rw [pass]
  rcases hreact : reaction type .nonBlocking visit capacity x arrival with ⟨y, e | _ | flow⟩ <;>
    simp_all [Except.map, Turn.flow]

/-- What a pass does not read is the end of the queue. -/
theorem unread_pass_suffix (type : UInt16) (visit : CommandVisitor σ β) (capacity : Option Nat)
    (x : σ) (queue : List Arrival) : (pass type visit capacity x queue).unread <:+ queue := by
  induction queue generalizing x with
  | nil => exact List.suffix_refl []
  | cons arrival rest ih =>
    by_cases hagain : (reaction type .nonBlocking visit capacity x arrival).2 = .ok .again
    · rw [pass_cons_of_again rest hagain]
      exact (ih _).trans (List.suffix_cons arrival rest)
    · rw [pass_cons_of_ne_again rest hagain]
      exact List.suffix_cons arrival rest

/-- A drain takes one turn and goes on unless that was the last. -/
theorem drain_eq_turn (type : UInt16) (visit : CommandVisitor σ β) (s : Socket) (x : σ) :
    drain type visit s x =
      let t := turn type .nonBlocking visit (s, x)
      match t.result with
      | .error e => ⟨t.state, t.trace, .error e⟩
      | .ok (.over flow) => ⟨t.state, t.trace, .ok flow⟩
      | .ok .again => (drain type visit t.state.1 t.state.2).after t.trace := by
  rw [drain]
  split <;> rename_i h <;> simp only [h]

/-- Draining an empty queue is one receive that would block. -/
theorem drain_nil {type : UInt16} {visit : CommandVisitor σ β} {s : Socket} {x : σ}
    (h : s.queue = []) :
    drain type visit s x = ⟨({ s with ready := false }, x), [.received], .ok .proceed⟩ := by
  rw [drain_eq_turn, turn_nil h]
  rfl

/-- A drain goes on behind an arrival whose reaction asks for more. -/
theorem drain_cons {type : UInt16} {visit : CommandVisitor σ β} {s : Socket} {x : σ}
    {arrival : Arrival} {rest : List Arrival} (h : s.queue = arrival :: rest) :
    drain type visit s x =
      match reaction type .nonBlocking visit s.capacity x arrival with
      | (x, .error e) => ⟨(afterReceive s arrival rest, x), [.received], .error e⟩
      | (x, .ok (.over flow)) => ⟨(afterReceive s arrival rest, x), [.received], .ok flow⟩
      | (x, .ok .again) =>
        (drain type visit (afterReceive s arrival rest) x).after [.received] := by
  rw [drain_eq_turn, turn_cons h]
  match reaction type .nonBlocking visit s.capacity x arrival with
  | (y, .error e) => rfl
  | (y, .ok (.over flow)) => rfl
  | (y, .ok .again) => rfl

/-- A drain is a pass over the queue: it changes the queue and the readiness of the socket, and
nothing else. -/
theorem drain_eq_pass (type : UInt16) (visit : CommandVisitor σ β) (s : Socket) (x : σ) :
    ∃ ready, (drain type visit s x).state =
        ({ s with queue := (pass type visit s.capacity x s.queue).unread, ready },
          (pass type visit s.capacity x s.queue).state) ∧
      (drain type visit s x).result = (pass type visit s.capacity x s.queue).result := by
  generalize hq : s.queue = queue
  -- A turn leaves a socket over the tail of the queue, so the induction is on the queue.
  induction queue generalizing s x with
  | nil => exact ⟨false, by simp [drain_nil hq, pass, ← hq], by simp [drain_nil hq, pass]⟩
  | cons arrival rest ih =>
    rw [drain_cons hq, pass]
    match reaction type .nonBlocking visit s.capacity x arrival with
    | (y, .error e) => exact ⟨_, rfl, rfl⟩
    | (y, .ok (.over flow)) => exact ⟨_, rfl, rfl⟩
    | (y, .ok .again) =>
      obtain ⟨ready, hstate, hresult⟩ := ih (afterReceive s arrival rest) y rfl
      exact ⟨ready, hstate, hresult⟩

/-- Without a pause in the queue, a drain leaves a socket that is not ready as it is. -/
theorem ready_drain {type : UInt16} {visit : CommandVisitor σ β} {s : Socket} {x : σ}
    (hpause : .pause ∉ s.queue) (hready : s.ready = false) :
    (drain type visit s x).state.1.ready = false := by
  generalize hq : s.queue = queue at hpause
  -- Of all arrivals only a pause makes a socket ready.
  induction queue generalizing s x with
  | nil => rw [drain_nil hq]
  | cons arrival rest ih =>
    rw [List.mem_cons, not_or] at hpause
    have hafter : (afterReceive s arrival rest).ready = false := by
      simp [afterReceive, hready, Ne.symm hpause.1]
    rw [drain_cons hq]
    match reaction type .nonBlocking visit s.capacity x arrival with
    | (y, .error e) => exact hafter
    | (y, .ok (.over flow)) => exact hafter
    | (y, .ok .again) => exact ih hafter rfl hpause.2

/-- When each arrival asks for another or is a pause, a drain empties the queue or leaves a socket
that is ready. -/
theorem awake_drain {type : UInt16} {visit : CommandVisitor σ β} {s : Socket} (x : σ)
    (h : ∀ arrival ∈ s.queue, arrival = .pause ∨
      ∀ y, (reaction type .nonBlocking visit s.capacity y arrival).2 = .ok .again) :
    (drain type visit s x).state.1.ready = true ∨ (drain type visit s x).state.1.queue = [] := by
  generalize hq : s.queue = queue at h
  induction queue generalizing s x with
  | nil =>
    rw [drain_nil hq]
    exact Or.inr hq
  | cons arrival rest ih =>
    obtain ⟨hfirst, hrest⟩ := List.forall_mem_cons.mp h
    rw [drain_cons hq]
    rcases hfirst with rfl | hagain
    · exact Or.inl rfl
    · rcases hreact : reaction type .nonBlocking visit s.capacity x arrival with ⟨y, answer⟩
      obtain rfl : answer = .ok .again := by rw [← hagain x, hreact]
      exact ih (s := afterReceive s arrival rest) y rfl hrest

/-! ## Switching first -/

/-- The socket behind a switch of modes that succeeded. -/
def switched (s : Socket) (mode : Mode) : Socket := { s with mode, made := s.made + 1 }

theorem setMode_ok {s : Socket} {mode : Mode} (h : s.faults s.made .setMode = none) :
    setMode mode s = ⟨s.switched mode, [.switched mode], .ok ()⟩ := by
  simp [setMode, call, h, Action.modify, Ran.after, switched]

/-- A switch that fails leaves the mode as it is. -/
theorem setMode_error {s : Socket} {mode : Mode} {errno : Int}
    (h : s.faults s.made .setMode = some errno) :
    setMode mode s = ⟨{ s with made := s.made + 1 }, [.switched mode], .error (.os errno)⟩ := by
  simp [setMode, call, h]

/-- A switch changes nothing but the mode, and counts as a call. -/
theorem setMode_eq (mode : Mode) (s : Socket) :
    ∃ mode' result, setMode mode s =
      ⟨{ s with mode := mode', made := s.made + 1 }, [.switched mode], result⟩ := by
  cases hfault : s.faults s.made .setMode with
  | some errno => exact ⟨s.mode, _, setMode_error hfault⟩
  | none => exact ⟨mode, _, setMode_ok hfault⟩

/-- A pump that cannot switch modes receives nothing. -/
theorem pump_error {type : UInt16} {mode : Mode} {visit : CommandVisitor σ β} {s : Socket} {x : σ}
    {errno : Int} (h : s.faults s.made .setMode = some errno) :
    pump type mode visit (s, x) =
      ⟨({ s with made := s.made + 1 }, x), [.switched mode], .error (.os errno)⟩ := by
  simp only [pump, bind, Action.bind, Action.on, setMode_error h, List.map_id]

/-- Without blocking, a pump drains the queue behind the switch of the mode. -/
theorem pump_nonBlocking {type : UInt16} {visit : CommandVisitor σ β} {s : Socket} {x : σ}
    (h : s.faults s.made .setMode = none) :
    pump type .nonBlocking visit (s, x) =
      (drain type visit (s.switched .nonBlocking) x).after [.switched .nonBlocking] := by
  simp only [pump, bind, Action.bind, Action.on, setMode_ok h, List.map_id]

theorem pump_blocking {type : UInt16} {visit : CommandVisitor σ β} {s : Socket} {x : σ}
    (h : s.faults s.made .setMode = none) :
    pump type .blocking visit (s, x) =
      let t := turn type .blocking visit (s.switched .blocking, x)
      ⟨t.state, .switched .blocking :: t.trace, t.result.map Turn.flow⟩ := by
  simp only [pump, bind, Action.bind, Action.on, setMode_ok h, List.map_id]
  -- The one turn ends the pump, whether it asks for another or not.
  cases ht : (turn type .blocking visit (s.switched .blocking, x)).result with
  | error e => simp [Ran.after, Except.map]
  | ok t => cases t <;> simp [Ran.after, Except.map, Turn.flow, pure, Action.pure]

/-! ## Calls -/

theorem trace_drain (type : UInt16) (visit : CommandVisitor σ β) (s : Socket) (x : σ) :
    ∀ call ∈ (drain type visit s x).trace, call = .received := by
  generalize hq : s.queue = queue
  induction queue generalizing s x with
  | nil => simp [drain_nil hq]
  | cons arrival rest ih =>
    rw [drain_cons hq]
    match reaction type .nonBlocking visit s.capacity x arrival with
    | (y, .error e) => simp
    | (y, .ok (.over flow)) => simp
    | (y, .ok .again) =>
      have hlater := ih (afterReceive s arrival rest) y rfl
      simpa [Ran.after] using hlater

/-- A pump switches modes and receives. -/
theorem trace_pump (type : UInt16) (mode : Mode) (visit : CommandVisitor σ β) (s : Socket) (x : σ) :
    ∀ call ∈ (pump type mode visit (s, x)).trace, call = .switched mode ∨ call = .received := by
  cases hfault : s.faults s.made .setMode with
  | some errno => simp [pump_error hfault]
  | none =>
    cases mode with
    | nonBlocking =>
      have hdrain := trace_drain type visit (s.switched .nonBlocking) x
      rw [pump_nonBlocking hfault]
      simp only [Ran.after, List.singleton_append, List.mem_cons]
      exact fun call hcall => hcall.imp id (hdrain call)
    | blocking =>
      rw [pump_blocking hfault]
      cases hqueue : s.queue with
      | nil => simp [turn_nil (s := s.switched .blocking) hqueue]
      | cons arrival rest => simp [turn_cons (s := s.switched .blocking) hqueue]

end Socket
end SampleTap
