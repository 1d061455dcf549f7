import SampleTap.Proofs.Capture
import SampleTap.Proofs.Session.Requests

/-!
# Recordings

The loop that fills a capture, turn by turn: a datagram is received, handed over as its frame and
flushed before the next receive, and the loop is over with the first thing that goes wrong or has no
bytes. `Recording` is the grammar of such traces, and `exists_recorded` says that the loop keeps to
it, over any queue and for any destination.

What a reader of a trace wants to know follows from the grammar (`Recording.faithful`): which frames
were handed over, and what may come behind each move.
-/

namespace SampleTap

/-! ## Traces of recordings -/

/-- The move of a capture that something done by a session is. -/
def Effect.move? : Effect → Option Move
  | call _ .received => some .received
  | call _ _ => none
  | sink done => done.move?

theorem Effect.moves_sink (calls : List SinkCall) :
    (calls.map Effect.sink).filterMap move? = calls.filterMap SinkCall.move? := by
  rw [List.filterMap_map]
  rfl

/-- What was received and has bytes. -/
def datagram? : Except Error Bytes → Option Bytes
  | .ok [] => none
  | .ok data => some data
  | .error _ => none

/-- What is received counts as a datagram unless it is empty. -/
theorem datagram?_of_ne_nil {data : Bytes} (h : data ≠ []) : datagram? (.ok data) = some data := by
  cases data with
  | nil => exact absurd rfl h
  | cons byte rest => rfl

/-- The moves of a loop that fills a capture, whose receives came to `outcomes`. -/
inductive Recording (snaplen : UInt32) : List (Except Error Bytes) → List Move → Prop
  | nil : Recording snaplen [] []
  /-- Nothing was received, or nothing that has bytes. -/
  | ended {outcome : Except Error Bytes} (hend : datagram? outcome = none) :
      Recording snaplen [outcome] [.received]
  /-- The frame was refused, or it was taken and could not be flushed. -/
  | failed {data : Bytes} {e : Error} {moves : List Move} (hdata : data ≠ [])
      (hwrite : Handover (Frame.ofDatagram snaplen data) moves (.error e)) :
      Recording snaplen [.ok data] (.received :: moves)
  /-- The frame was taken and flushed, and the loop may go on. -/
  | next {data : Bytes} {outcomes : List (Except Error Bytes)} {moves later : List Move}
      (hdata : data ≠ [])
      (hwrite : Handover (Frame.ofDatagram snaplen data) moves (.ok ()))
      (hlater : Recording snaplen outcomes later) :
      Recording snaplen (.ok data :: outcomes) (.received :: (moves ++ later))

/-- What comes behind a move of a loop that fills a capture, whose receives came to `outcomes`. -/
def Follows (snaplen : UInt32) (outcomes : List (Except Error Bytes)) : Move → List Move → Prop
  -- A datagram is handed over before anything else is done; without one nothing more is done.
  | .received, after => ∃ outcome later, outcome :: later <:+ outcomes ∧
      after.count .received = later.length ∧
      match datagram? outcome with
      | none => after = []
      | some data => ∃ wholeLength taken rest,
          after = .framed (Frame.ofDatagram snaplen data) wholeLength taken :: rest
  | .framed _ _ true, after => ∃ succeeded rest, after = .flushed succeeded :: rest
  | .framed _ _ false, after => after = []
  | .flushed true, _ => True
  | .flushed false, after => after = []

/-- Whether moves are those of a capture that keeps to what was received. -/
structure Faithful (snaplen : UInt32) (outcomes : List (Except Error Bytes)) (moves : List Move) :
    Prop where
  /-- Each datagram with any bytes is handed over once, in order, and nothing else is. -/
  frames : moves.filterMap Move.frame? =
    (outcomes.filterMap datagram?).map (Frame.ofDatagram snaplen)
  /-- A frame is said to be as long as it is, which the snapshot length bounds. -/
  lengths : ∀ frame wholeLength taken, Move.framed frame wholeLength taken ∈ moves →
    wholeLength.toNat = frame.length ∧ wholeLength.toNat ≤ snaplen.toNat
  received : moves.count .received = outcomes.length
  /-- What goes wrong is the last move, and a frame that was taken is flushed before all else. -/
  follows : ∀ move after, move :: after <:+ moves → Follows snaplen outcomes move after

/-- What came before does not matter. -/
theorem Follows.cons {snaplen : UInt32} {outcomes : List (Except Error Bytes)} {move : Move}
    {after : List Move} (h : Follows snaplen outcomes move after) (outcome : Except Error Bytes) :
    Follows snaplen (outcome :: outcomes) move after := by
  cases move with
  | received =>
    obtain ⟨outcome', later, hsuffix, hcount, hanswer⟩ := h
    exact ⟨outcome', later, hsuffix.trans (List.suffix_cons outcome outcomes), hcount, hanswer⟩
  | framed frame wholeLength taken =>
    cases taken with
    | true => exact h
    | false => exact h
  | flushed succeeded =>
    cases succeeded with
    | true => exact h
    | false => exact h

/-- A datagram that is handed over at once. -/
theorem Follows.received {snaplen : UInt32} {data : Bytes} {outcomes : List (Except Error Bytes)}
    {wholeLength : UInt32} {taken : Bool} {rest : List Move} (hdata : data ≠ [])
    (hcount : rest.count .received = outcomes.length) :
    Follows snaplen (.ok data :: outcomes) .received
      (.framed (Frame.ofDatagram snaplen data) wholeLength taken :: rest) := by
  refine ⟨.ok data, outcomes, List.suffix_refl _, ?_, ?_⟩
  · rw [List.count_cons_of_ne (by simp), hcount]
  · rw [datagram?_of_ne_nil hdata]
    exact ⟨wholeLength, taken, rest, rfl⟩

namespace Recording

variable {snaplen : UInt32} {outcomes : List (Except Error Bytes)} {moves : List Move}

/-- The frames are those of the datagrams that were received, in order. -/
theorem frames_eq (h : Recording snaplen outcomes moves) :
    moves.filterMap Move.frame? =
      (outcomes.filterMap datagram?).map (Frame.ofDatagram snaplen) := by
  induction h with
  | nil => rfl
  | ended hend =>
    rw [List.filterMap_cons_none hend]
    rfl
  | failed hdata hwrite =>
    rw [List.filterMap_cons_some (datagram?_of_ne_nil hdata)]
    cases hwrite with
    | refused => rfl
    | stuck => rfl
  | next hdata hwrite _ ih =>
    rw [List.filterMap_cons_some (datagram?_of_ne_nil hdata), List.map_cons, ← ih]
    cases hwrite with
    | passed => rfl

theorem count_received (h : Recording snaplen outcomes moves) :
    moves.count .received = outcomes.length := by
  induction h with
  | nil => rfl
  | ended => rfl
  | failed _ hwrite =>
    cases hwrite with
    | refused => rfl
    | stuck => rfl
  | next _ hwrite _ ih =>
    cases hwrite with
    | passed =>
      rw [List.length_cons, ← ih]
      simp

/-- A length that fits the snapshot length fits its field. -/
theorem toNat_ofNat_length (hroom : Frame.headerLength < snaplen.toNat) (data : Bytes) :
    (UInt32.ofNat (Frame.ofDatagram snaplen data).length).toNat =
        (Frame.ofDatagram snaplen data).length ∧
      (UInt32.ofNat (Frame.ofDatagram snaplen data).length).toNat ≤ snaplen.toNat := by
  have hle := Frame.length_ofDatagram_le (Nat.le_of_lt hroom) data
  have hfield := Frame.toNat_length_ofDatagram (Nat.le_of_lt hroom) data
  exact ⟨hfield, hfield.symm ▸ hle⟩

/-- The whole length of a frame is its own, within the snapshot length. -/
theorem lengths (h : Recording snaplen outcomes moves)
    (hroom : Frame.headerLength < snaplen.toNat) :
    ∀ frame wholeLength taken, Move.framed frame wholeLength taken ∈ moves →
      wholeLength.toNat = frame.length ∧ wholeLength.toNat ≤ snaplen.toNat := by
  induction h with
  | nil => simp
  | ended => simp
  | @failed data _ _ _ hwrite =>
    intro frame wholeLength taken hmem
    obtain ⟨rfl, rfl⟩ := hwrite.of_mem_framed (List.mem_of_ne_of_mem (by simp) hmem)
    exact toNat_ofNat_length hroom data
  | @next data _ _ _ _ hwrite _ ih =>
    intro frame wholeLength taken hmem
    rcases List.mem_append.mp (List.mem_of_ne_of_mem (by simp) hmem) with hhere | hthere
    · obtain ⟨rfl, rfl⟩ := hwrite.of_mem_framed hhere
      exact toNat_ofNat_length hroom data
    · exact ih frame wholeLength taken hthere

theorem follows (h : Recording snaplen outcomes moves) :
    ∀ move after, move :: after <:+ moves → Follows snaplen outcomes move after := by
  induction h with
  | nil => simp
  | ended hend =>
    intro move after hsuffix
    rcases List.suffix_cons_iff.mp hsuffix with hhead | hnone
    · obtain ⟨rfl, rfl⟩ := List.cons.inj hhead
      exact ⟨_, [], List.suffix_refl _, rfl, by rw [hend]⟩
    · simp at hnone
  | failed hdata hwrite =>
    intro move after hsuffix
    cases hwrite with
    | refused =>
      simp only [List.suffix_cons_iff, List.suffix_nil, List.cons.injEq, reduceCtorEq,
        or_false] at hsuffix
      rcases hsuffix with ⟨rfl, rfl⟩ | ⟨rfl, rfl⟩
      · exact .received hdata rfl
      · exact rfl
    | stuck =>
      simp only [List.suffix_cons_iff, List.suffix_nil, List.cons.injEq, reduceCtorEq,
        or_false] at hsuffix
      rcases hsuffix with ⟨rfl, rfl⟩ | ⟨rfl, rfl⟩ | ⟨rfl, rfl⟩
      · exact .received hdata rfl
      · exact ⟨false, [], rfl⟩
      · exact rfl
  | next hdata hwrite hlater ih =>
    intro move after hsuffix
    cases hwrite with
    | passed =>
      simp only [List.cons_append, List.nil_append, List.suffix_cons_iff, List.cons.injEq]
        at hsuffix
      rcases hsuffix with ⟨rfl, rfl⟩ | ⟨rfl, rfl⟩ | ⟨rfl, rfl⟩ | hthere
      · refine .received hdata ?_
        rw [List.count_cons_of_ne (by simp), hlater.count_received]
      · exact ⟨true, _, rfl⟩
      · exact trivial
      · exact (ih move after hthere).cons _

/-- A recording is faithful, by induction on the outcomes. -/
theorem faithful (h : Recording snaplen outcomes moves)
    (hroom : Frame.headerLength < snaplen.toNat) : Faithful snaplen outcomes moves where
  frames := h.frames_eq
  lengths := h.lengths hroom
  received := h.count_received
  follows := h.follows

end Recording

/-! ## The loop -/

namespace Session

/-- Whether datagrams are those up to the first that has no bytes or that `proceeds` ends with. -/
inductive ReadThrough (proceeds : Bytes → Except Error Bool) : List Bytes → Prop
  | empty : ReadThrough proceeds [[]]
  | last {data : Bytes} (hdata : data ≠ []) (hend : proceeds data = .ok false) :
      ReadThrough proceeds [data]
  | next {data : Bytes} {rest : List Bytes} (hdata : data ≠ []) (hmore : proceeds data = .ok true)
      (hrest : ReadThrough proceeds rest) : ReadThrough proceeds (data :: rest)

/-- What the loop over a queue leaves, when its receives came to `outcomes`. -/
structure Recorded (proceeds : Bytes → Except Error Bool) (socket : Socket) (capture : Capture)
    (ran : Ran Effect (Socket × Capture) Unit) (outcomes : List (Except Error Bytes)) : Prop where
  received : outcomes <+: socket.receipts
  queue : ran.state.1.queue = socket.queue.drop outcomes.length
  moves : Recording capture.snaplen outcomes (ran.trace.filterMap Effect.move?)
  primed : ran.state.2.Primed
  snaplen : ran.state.2.snaplen = capture.snaplen
  succeeded : ran.result = .ok () →
    ∃ datagrams, outcomes = datagrams.map .ok ∧ ReadThrough proceeds datagrams

theorem moves_cons (side : Side) (calls : List SinkCall) :
    (.call side .received :: calls.map Effect.sink).filterMap Effect.move? =
      .received :: calls.filterMap SinkCall.move? := by
  have hreceived : Effect.move? (.call side .received) = some .received := rfl
  rw [List.filterMap_cons_some hreceived, Effect.moves_sink]

section

variable {side : Side} {proceeds : Bytes → Except Error Bool} {socket : Socket} {arrival : Arrival}
  {rest : List Arrival} {capture capture' : Capture} {calls : List SinkCall}

/-- The loop that is over after one receive, of which `calls` were made on the destination. -/
theorem Recorded.one {result : Except Error Unit}
    (hqueue : socket.queue = arrival :: rest) (hprimed : capture'.Primed)
    (hsnaplen : capture'.snaplen = capture.snaplen)
    (hmoves : Recording capture.snaplen [Socket.read socket.capacity arrival]
      (.received :: calls.filterMap SinkCall.move?))
    (hresult : result = .ok () → ∃ data, Socket.read socket.capacity arrival = .ok data ∧
      ReadThrough proceeds [data]) :
    Recorded proceeds socket capture ⟨(Socket.afterReceive socket arrival rest, capture'),
      .call side .received :: calls.map .sink, result⟩ [Socket.read socket.capacity arrival] where
  received := by
    rw [Socket.receipts_cons hqueue]
    exact List.prefix_append [_] _
  queue := by rw [hqueue]; rfl
  moves := by rwa [moves_cons]
  primed := hprimed
  snaplen := hsnaplen
  succeeded h := by
    obtain ⟨data, hread, hthrough⟩ := hresult h
    exact ⟨[data], by rw [hread]; rfl, hthrough⟩

/-- The loop that goes on behind a datagram. -/
theorem Recorded.cons {data : Bytes} {ran : Ran Effect (Socket × Capture) Unit}
    {outcomes : List (Except Error Bytes)}
    (hqueue : socket.queue = arrival :: rest)
    (hread : Socket.read socket.capacity arrival = .ok data) (hdata : data ≠ [])
    (hmore : proceeds data = .ok true) (hsnaplen : capture'.snaplen = capture.snaplen)
    (hwrite : Handover (Frame.ofDatagram capture.snaplen data)
      (calls.filterMap SinkCall.move?) (.ok ()))
    (hlater : Recorded proceeds (Socket.afterReceive socket arrival rest) capture' ran outcomes) :
    Recorded proceeds socket capture (ran.after (.call side .received :: calls.map .sink))
      (.ok data :: outcomes) where
  received := by
    rw [Socket.receipts_cons hqueue, hread]
    exact (List.prefix_cons_inj _).mpr hlater.received
  queue := by
    rw [hqueue, List.length_cons, List.drop_succ_cons]
    exact hlater.queue
  moves := by
    have hrest := hlater.moves
    rw [hsnaplen] at hrest
    rw [Ran.after, List.filterMap_append, moves_cons, List.cons_append]
    exact .next hdata hwrite hrest
  primed := hlater.primed
  snaplen := hlater.snaplen.trans hsnaplen
  succeeded h := by
    obtain ⟨datagrams, houtcomes, hthrough⟩ := hlater.succeeded h
    exact ⟨data :: datagrams, by rw [houtcomes]; rfl, .next hdata hmore hthrough⟩

end

/-- The loop keeps to the grammar, and it keeps its capture ready for another datagram. -/
theorem exists_recorded (side : Side) (proceeds : Bytes → Except Error Bool) (socket : Socket)
    {capture : Capture} (hprimed : capture.Primed) :
    ∃ outcomes,
      Recorded proceeds socket capture (record side proceeds socket capture) outcomes := by
  generalize hqueue : socket.queue = queue
  induction queue generalizing socket capture with
  | nil =>
    refine ⟨[.error (.os Errno.wouldBlock)], ?_⟩
    rw [record_nil side proceeds hqueue]
    refine ⟨?_, ?_, .ended rfl, hprimed, rfl, by simp⟩
    · have hblocked := Socket.receipts_nil hqueue
      exact hblocked ▸ List.prefix_refl _
    · show socket.queue = socket.queue.drop 1
      rw [hqueue]
      rfl
  | cons arrival rest ih =>
    -- The cases are those of the loop: no datagram, no bytes, a frame that was not let through, and
    -- one that was, behind which the loop is over or goes on with the rest of the queue.
    rw [record_cons side proceeds hqueue]
    have hover (hend : datagram? (Socket.read socket.capacity arrival) = none) :
        Recording capture.snaplen [Socket.read socket.capacity arrival]
          (.received :: ([] : List SinkCall).filterMap SinkCall.move?) := .ended hend
    cases hread : Socket.read socket.capacity arrival with
    | error e =>
      refine ⟨_, .one hqueue hprimed rfl (hover ?_) (by simp)⟩
      rw [hread]
      rfl
    | ok data =>
      have hwrite := hprimed.handover_write data
      obtain ⟨hprimed', hsnaplen⟩ := hprimed.write data
      by_cases hempty : data = []
      · subst hempty
        refine ⟨_, .one hqueue hprimed rfl (hover ?_) fun _ => ⟨[], hread, .empty⟩⟩
        rw [hread]
        rfl
      · have hnonempty : data.isEmpty = false := by simpa using hempty
        simp only [hnonempty, Bool.false_eq_true, if_false]
        cases hresult : (capture.write data).result with
        | error e =>
          rw [hresult] at hwrite
          refine ⟨_, .one hqueue hprimed' hsnaplen ?_ (by simp)⟩
          rw [hread]
          exact .failed hempty hwrite
        | ok _ =>
          rw [hresult] at hwrite
          have hlast : Recording capture.snaplen [Socket.read socket.capacity arrival]
              (.received :: (capture.write data).trace.filterMap SinkCall.move?) := by
            have hone := Recording.next hempty hwrite .nil
            rwa [List.append_nil, ← hread] at hone
          rcases hproceeds : proceeds data with e | _ | _
          · exact ⟨_, .one hqueue hprimed' hsnaplen hlast (by simp)⟩
          · have hthrough := ReadThrough.last hempty hproceeds
            exact ⟨_, .one hqueue hprimed' hsnaplen hlast fun _ => ⟨data, hread, hthrough⟩⟩
          · obtain ⟨outcomes, hlater⟩ :=
              ih (Socket.afterReceive socket arrival rest) hprimed' rfl
            exact ⟨_, .cons hqueue hread hempty hproceeds hsnaplen hwrite hlater⟩

end Session
end SampleTap
