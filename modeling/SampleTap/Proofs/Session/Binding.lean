import SampleTap.Proofs.Action
import SampleTap.Proofs.Message
import SampleTap.Proofs.Session.Handing
import SampleTap.Proofs.Session.Modes

/-!
# Delivery after binding to a group

A filter sees a datagram when it arrives, and what is in the queue already stays there. So a session
that was bound to a group hands over events of that group only (`Delivers`) exactly when the queue
held no datagram of another group when the filter came into force (`delivers_bindGroupAmid_iff`).

That may be later than the call: when a binding replaces a filter, there is none in between, and
what arrives then is queued (`bindGroupAmid`, `queue_amid_of_isSome`).

`Guarded` is what carries a run from one binding to the next: the group's program is in force, and
no datagram in the queue is of another group.
-/

namespace SampleTap

variable {σ β : Type}

/-! ## The filter of a socket -/

namespace Socket

/-- A multicast datagram changes neither the receive buffer nor the failures to come. -/
theorem multicast_frame (data : Bytes) (s : Socket) :
    (multicast data s).1.capacity = s.capacity ∧ (multicast data s).1.faults = s.faults := by
  obtain ⟨queue, ready, hsocket⟩ := exists_multicast data s
  rw [hsocket]
  exact ⟨rfl, rfl⟩

theorem attach_ok {program : Bpf.Program} {s : Socket} (h : (attach program s).result = .ok ()) :
    attach program s =
      ⟨{ s with made := s.made + 1, filter := some program }, [.attached program], .ok ()⟩ := by
  unfold attach at h ⊢
  split_ifs at h ⊢ with hrefuses hinvalid
  · unfold call at h ⊢
    cases hfault : s.faults s.made .attach with
    | some errno => simp [hfault] at h
    | none => rfl

theorem detach_ok {s : Socket} (h : (detach s).result = .ok ()) :
    (detach s).state = { s with made := s.made + 1, filter := none } := by
  unfold detach at h ⊢
  split_ifs at h ⊢ with hinvalid
  · unfold call at h ⊢
    cases hfault : s.faults s.made .detach with
    | some errno => simp [hfault] at h
    | none =>
      simp only [hfault, Ran.after] at h ⊢
      split_ifs at h ⊢
      · rfl

end Socket

namespace Session

/-! ## The two halves of a binding -/

/-- Takes the filter of a group out of force when there is one. -/
def detachGroup : Act Unit := do
  let s ← Action.get
  if s.filter.isSome then
    onEvent (Connection.onSocket Socket.detach)
    Action.modify fun s => { s with filter := none }

/-- Puts the filter of a group in force and remembers it. -/
def attachGroup (group : UInt32) : Act Unit := do
  onEvent (Connection.onSocket (Socket.attach (GroupFilter.mk group).program))
  Action.modify fun s => { s with filter := some ⟨group⟩ }

/-- The session behind the arrival of multicast datagrams, each through the filter in force. -/
def afterMulticast : List Bytes → Session → Session
  | [], s => s
  | data :: rest, s => afterMulticast rest (s.withSocket (s.event.socket.multicast data).1)

/-- A binding in the midst of traffic: datagrams arrive when the filter before is out of force and
the new one is not in force yet. -/
def bindGroupAmid (gap : List Bytes) (group : UInt32) : Act Unit := do
  detachGroup
  Action.modify (afterMulticast gap)
  attachGroup group

/-- Without such datagrams it is the binding itself. -/
theorem bindGroupAmid_nil (group : UInt32) : bindGroupAmid [] group = bindGroup group := by
  have hquiet : (Action.modify (afterMulticast []) : Act Unit) = pure () := rfl
  rw [bindGroupAmid, detachGroup, bindGroup, hquiet, bind_assoc, pure_bind]
  refine congrArg (Action.get >>= ·) (funext fun s => ?_)
  -- With the empty gap gone, only the brackets differ.
  by_cases hfilter : s.filter.isSome
  · simp only [if_pos hfilter]
    rw [bind_assoc]
    rfl
  · simp only [if_neg hfilter]
    rw [pure_bind]
    rfl

/-- The session that the new filter finds, when datagrams arrive in the midst of a binding. -/
def amid (gap : List Bytes) (s : Session) : Session := afterMulticast gap (detachGroup s).state

theorem detachGroup_of_none {s : Session} (hfilter : s.filter = none) :
    detachGroup s = ⟨s, [], .ok ()⟩ := by
  have hget : (Action.get : Act Session) s = ⟨s, [], .ok s⟩ := rfl
  rw [detachGroup, Action.bind_of_ok hget, hfilter]
  rfl

theorem detachGroup_of_some {s : Session} {f : GroupFilter} (hfilter : s.filter = some f) :
    let ran := Socket.detach s.event.socket
    detachGroup s =
      match ran.result with
      | .error e => ⟨s.withSocket ran.state, ran.trace.map (.call .event), .error e⟩
      | .ok () =>
        ⟨{ s.withSocket ran.state with filter := none }, ran.trace.map (.call .event), .ok ()⟩ := by
  intro ran
  have hget : (Action.get : Act Session) s = ⟨s, [], .ok s⟩ := rfl
  have hdetach := onEvent_eq Socket.detach s
  rw [detachGroup, Action.bind_of_ok hget, hfilter]
  simp only [Option.isSome_some, if_true]
  cases hresult : ran.result with
  | error e =>
    rw [show (Socket.detach s.event.socket).result = .error e from hresult] at hdetach
    rw [Action.bind_of_error hdetach]
    rfl
  | ok _ =>
    rw [show (Socket.detach s.event.socket).result = .ok () from hresult] at hdetach
    rw [Action.bind_of_ok hdetach]
    simp [Action.modify, Ran.after, ran]

theorem attachGroup_eq (g : UInt32) (s : Session) :
    let ran := Socket.attach (GroupFilter.mk g).program s.event.socket
    attachGroup g s =
      match ran.result with
      | .error e => ⟨s.withSocket ran.state, ran.trace.map (.call .event), .error e⟩
      | .ok () =>
        ⟨{ s.withSocket ran.state with filter := some ⟨g⟩ }, ran.trace.map (.call .event),
          .ok ()⟩ := by
  intro ran
  have hattach := onEvent_eq (Socket.attach (GroupFilter.mk g).program) s
  rw [attachGroup]
  cases hresult : ran.result with
  | error e =>
    rw [show (Socket.attach _ s.event.socket).result = .error e from hresult] at hattach
    rw [Action.bind_of_error hattach]
  | ok _ =>
    rw [show (Socket.attach _ s.event.socket).result = .ok () from hresult] at hattach
    rw [Action.bind_of_ok hattach]
    simp [Action.modify, Ran.after, ran]

/-- A detach that succeeds changes the filter in force only if there was one on record. -/
theorem detachGroup_ok {s : Session} (h : (detachGroup s).result = .ok ()) :
    ∃ made, (detachGroup s).state.event = (s.withSocket { s.event.socket with
      filter := if s.filter.isSome then none else s.event.socket.filter, made }).event := by
  cases hfilter : s.filter with
  | none =>
    rw [detachGroup_of_none hfilter]
    exact ⟨s.event.socket.made, rfl⟩
  | some f =>
    rw [detachGroup_of_some hfilter] at h ⊢
    cases hresult : (Socket.detach s.event.socket).result with
    | error e => simp [hresult] at h
    | ok _ =>
      refine ⟨s.event.socket.made + 1, ?_⟩
      dsimp only
      rw [Socket.detach_ok hresult]
      rfl

/-- An attach that succeeds puts the filter of the group in force. -/
theorem attachGroup_ok {g : UInt32} {s : Session} (h : (attachGroup g s).result = .ok ()) :
    (attachGroup g s).state.event = (s.withSocket { s.event.socket with
      filter := some (GroupFilter.mk g).program, made := s.event.socket.made + 1 }).event := by
  rw [attachGroup_eq] at h ⊢
  cases hresult : (Socket.attach (GroupFilter.mk g).program s.event.socket).result with
  | error e => simp [hresult] at h
  | ok _ =>
    dsimp only
    rw [Socket.attach_ok hresult]

theorem event_withSocket_congr {s s' : Session} {socket : Socket}
    (h : s'.event = (s.withSocket socket).event) (socket' : Socket) :
    (s'.withSocket socket').event = (s.withSocket socket').event := by
  rw [withSocket, h]
  rfl

/-- Multicast datagrams change nothing of the event connection but its socket, and of that neither
the receive buffer nor the failures to come. -/
theorem exists_socket_afterMulticast (gap : List Bytes) (s : Session) :
    ∃ socket, (afterMulticast gap s).event = (s.withSocket socket).event ∧
      socket.capacity = s.event.socket.capacity ∧ socket.faults = s.event.socket.faults := by
  induction gap generalizing s with
  | nil => exact ⟨s.event.socket, rfl, rfl, rfl⟩
  | cons data rest ih =>
    obtain ⟨socket, hevent, hcapacity, hfaults⟩ :=
      ih (s.withSocket (s.event.socket.multicast data).1)
    obtain ⟨hcapacity', hfaults'⟩ := Socket.multicast_frame data s.event.socket
    exact ⟨socket, hevent, hcapacity.trans hcapacity', hfaults.trans hfaults'⟩

/-- Without a filter every multicast datagram is queued. -/
theorem queue_afterMulticast_of_none (gap : List Bytes) {s : Session}
    (hfilter : s.event.socket.filter = none) :
    (afterMulticast gap s).event.socket.queue =
      s.event.socket.queue ++ gap.map Arrival.datagram := by
  induction gap generalizing s with
  | nil => exact (List.append_nil _).symm
  | cons data rest ih =>
    have hqueued : (s.event.socket.multicast data).1 = s.event.socket.deliver [.datagram data] := by
      rw [Socket.multicast, hfilter]
    have hstill : (s.withSocket (s.event.socket.deliver [.datagram data])).event.socket.filter =
        none := hfilter
    rw [afterMulticast, hqueued, ih hstill, List.map_cons]
    exact List.append_assoc ..

/-- When a binding replaces a filter, the new one finds what was queued before and everything that
arrives in between. -/
theorem queue_amid_of_isSome (gap : List Bytes) {s : Session} (hfilter : s.filter.isSome)
    (hdetach : (detachGroup s).result = .ok ()) :
    (s.amid gap).event.socket.queue = s.event.socket.queue ++ gap.map Arrival.datagram := by
  obtain ⟨made, hevent⟩ := detachGroup_ok hdetach
  rw [if_pos hfilter] at hevent
  rw [amid, queue_afterMulticast_of_none gap (by rw [hevent]; rfl), hevent]
  rfl

/-- A session that was bound has the group's program in force, over the queue of the session that
the new filter found. -/
theorem bindGroupAmid_ok {gap : List Bytes} {g : UInt32} {s : Session}
    (h : (bindGroupAmid gap g s).result = .ok ()) :
    ∃ socket, (bindGroupAmid gap g s).state.event = (s.withSocket socket).event ∧
      socket.filter = some (GroupFilter.mk g).program ∧
      socket.queue = (s.amid gap).event.socket.queue ∧
      socket.capacity = s.event.socket.capacity ∧ socket.faults = s.event.socket.faults := by
  obtain ⟨_, hdetach, hrest, hdetached⟩ := Action.bind_ok h
  obtain ⟨_, -, hattach, hheard⟩ := Action.bind_ok hrest
  obtain ⟨made, hevent⟩ := detachGroup_ok hdetach
  obtain ⟨socket, hevent', hcapacity, hfaults⟩ :=
    exists_socket_afterMulticast gap (detachGroup s).state
  rw [hevent] at hcapacity hfaults
  have hamid : (s.amid gap).event = (s.withSocket socket).event :=
    hevent'.trans (event_withSocket_congr hevent socket)
  -- The second half works on the session that the traffic leaves.
  have hbound : (bindGroupAmid gap g s).state.event = ((s.amid gap).withSocket
      { (s.amid gap).event.socket with
        filter := some (GroupFilter.mk g).program,
        made := (s.amid gap).event.socket.made + 1 }).event := by
    rw [bindGroupAmid, hdetached, hheard, attachGroup_ok hattach]
    rfl
  refine ⟨_, hbound.trans (event_withSocket_congr hamid _), rfl, rfl, ?_, ?_⟩
  · rw [hamid]
    exact hcapacity
  · rw [hamid]
    exact hfaults

end Session

/-! ## Datagrams of other groups -/

/-- Whether a datagram is one message, in which the group is not repeated. A datagram that reaches
to the ancillary offsets of filters is left out. -/
structure Message.Alone (data : Bytes) (m : Message) : Prop where
  only : (Message.split data).1 = [m]
  once : (Attribute.lenient (m.payload.drop CommandHeader.length)).countP
    (Attribute.isOf .sampleGroup) ≤ 1
  size : data.length ≤ Bpf.ancillaryBase.toNat

namespace Session

/-- Whether a datagram is a single notification of another group than a given one. -/
def Foreign (s : Session) (g : UInt32) (data : Bytes) : Prop :=
  ∃ m t group, Message.Alone data m ∧
    Socket.read s.event.socket.capacity (.datagram data) = .ok data ∧
    s.Notifies m t ∧ t.u32? .sampleGroup = some group ∧ group ≠ g

/-- Whether a datagram is of another group only depends on the family and the receive buffer. -/
theorem foreign_congr {s s' : Session} {g : UInt32} {data : Bytes}
    (hfamily : s'.event.family = s.event.family)
    (hcapacity : s'.event.socket.capacity = s.event.socket.capacity) :
    s'.Foreign g data ↔ s.Foreign g data := by
  have hnotifies (m : Message) (t : AttrTable) : s'.Notifies m t ↔ s.Notifies m t :=
    ⟨fun h => ⟨h.data, by rw [h.type, hfamily], h.table⟩,
      fun h => ⟨h.data, by rw [h.type, hfamily], h.table⟩⟩
  simp only [Foreign, hnotifies, hcapacity]

/-- The filter of a group drops the notifications of other groups. -/
theorem run_program_of_foreign {s : Session} {g : UInt32} {data : Bytes} (h : s.Foreign g data) :
    Bpf.run (GroupFilter.mk g).program data = .ok 0 := by
  obtain ⟨m, t, group, halone, -, hnotifies, hgroup, hother⟩ := h
  obtain ⟨command, attributes, hcommand, htable⟩ := hnotifies.table
  obtain ⟨tail, htail⟩ := Message.drop_of_split halone.only hcommand
  have honce := halone.once
  rw [← (CommandHeader.split?_eq_some hcommand).2] at honce
  have hreach := GroupFilter.groupsInReach_of_length halone.size
  rw [GroupFilter.run_program_of_u32? g hreach htail htable honce hgroup, if_neg hother]

/-- An event that is handed over because of a datagram of no other group is in the group. -/
theorem inGroup_of_not_foreign {s : Session} {g : UInt32} {h : Handlers σ β} {x : σ}
    {arrival : Arrival} {data : Bytes} {e : Event} {m : Message} (halone : Message.Alone data m)
    (he : (data, e) ∈ s.handedBy h x arrival) (hforeign : ¬ s.Foreign g data) : e.InGroup g := by
  obtain ⟨hread, m', hm', hnotifies⟩ := mem_handedBy he
  rw [halone.only, List.mem_singleton] at hm'
  subst hm'
  obtain ⟨_, _, -, htable⟩ := hnotifies.table
  rw [Socket.eq_datagram_of_read hread] at hread
  rw [Event.inGroup_iff]
  intro hcontains
  cases hgroup : e.table.u32? .sampleGroup with
  | none =>
    have hget := AttrTable.get?_eq_none_of_u32? htable hgroup (Nat.le_refl 4)
    simp [AttrTable.contains, hget] at hcontains
  | some group =>
    by_cases hsame : group = g
    · rw [hsame]
    -- A table with another group makes the datagram one of another group.
    · exact absurd ⟨m', e.table, group, halone, hread, hnotifies, hgroup, hsame⟩ hforeign

/-! ## Runs -/

/-- Something that happens to a session. -/
inductive Step : Type 1
  /-- A multicast datagram arrives at the event connection. -/
  | multicast (data : Bytes)
  /-- The session is bound to a group. -/
  | bind (group : UInt32)
  /-- A dispatch to handlers that start in state `x`. -/
  | dispatch {σ β : Type} (mode : Mode) (handlers : Handlers σ β) (x : σ)
  /-- A dispatch to a visitor of events that starts in state `x`. -/
  | dispatchEvents {σ β : Type} (mode : Mode) (visit : Visitor Event σ β) (x : σ)

namespace Step

/-- Whether a step binds the session to a group. -/
def isBind : Step → Bool
  | bind _ => true
  | _ => false

/-- The session behind a step. -/
def after (s : Session) : Step → Session
  | multicast data => s.withSocket (s.event.socket.multicast data).1
  | bind group => (bindGroup group s).state
  | dispatch mode handlers x => (Session.dispatch mode handlers (s, x)).state.1
  | dispatchEvents mode visit x => (Session.dispatchEvents mode visit (s, x)).state.1

/-- The events that are handed over in a step, with their datagrams. -/
def handed (s : Session) : Step → List (Bytes × Event)
  | dispatch mode handlers x => Session.handed mode handlers s x
  | dispatchEvents mode visit x => Session.handed mode (.ofEvents visit) s x
  | _ => []

end Step

/-- The events that are handed over in a run, with their datagrams. -/
def handedAlong : List Step → Session → List (Bytes × Event)
  | [], _ => []
  | step :: rest, s => step.handed s ++ handedAlong rest (step.after s)

/-- Whether a session, until it is bound again, hands over events of one group only, as far as they
come from datagrams of one message that does not repeat its group. -/
def Delivers (g : UInt32) (s : Session) : Prop :=
  ∀ steps : List Step, (∀ step ∈ steps, step.isBind = false) →
    ∀ data e m, (data, e) ∈ handedAlong steps s → Message.Alone data m → e.InGroup g

/-- The filter of a group is in force, and no datagram in the queue is of another group. -/
structure Guarded (g : UInt32) (s : Session) : Prop where
  filter : s.event.socket.filter = some (GroupFilter.mk g).program
  queue : ∀ data, .datagram data ∈ s.event.socket.queue → ¬ s.Foreign g data

/-- A change of the event connection's socket keeps the guard when it keeps the filter and the
receive buffer and queues nothing of another group. -/
theorem Guarded.withSocket {g : UInt32} {s : Session} {socket : Socket} (h : Guarded g s)
    (hfilter : socket.filter = s.event.socket.filter)
    (hcapacity : socket.capacity = s.event.socket.capacity)
    (hqueue : ∀ data, .datagram data ∈ socket.queue →
      .datagram data ∈ s.event.socket.queue ∨ ¬ s.Foreign g data) :
    Guarded g (s.withSocket socket) := by
  refine ⟨hfilter.trans h.filter, fun data hdata => ?_⟩
  rw [foreign_congr (family_withSocket s socket) hcapacity]
  exact (hqueue data hdata).elim (h.queue data) id

/-- Dispatching keeps the guard, since it only takes datagrams off the queue. -/
theorem Guarded.dispatch {g : UInt32} {s : Session} (h : Guarded g s) (mode : Mode)
    (handlers : Handlers σ β) (x : σ) : Guarded g (dispatch mode handlers (s, x)).state.1 := by
  obtain ⟨socket, hstate, hfilter, hcapacity, hqueue⟩ :=
    exists_socket_dispatch mode handlers s x
  rw [hstate]
  exact h.withSocket hfilter hcapacity fun data hdata => Or.inl (hqueue.mem hdata)

/-- A guard lets no multicast datagram of another group into the queue. -/
theorem Guarded.multicast {g : UInt32} {s : Session} (h : Guarded g s) (data : Bytes) :
    Guarded g (s.withSocket (s.event.socket.multicast data).1) := by
  simp only [Socket.multicast, h.filter]
  match hrun : Bpf.run (GroupFilter.mk g).program data with
  | .error e => exact h
  | .ok accepted =>
    dsimp only
    by_cases hdropped : accepted = 0
    · rw [if_pos hdropped]
      exact h
    · rw [if_neg hdropped]
      refine h.withSocket rfl rfl fun data' hdata' => ?_
      rcases List.mem_append.mp hdata' with hqueued | hnew
      · exact Or.inl hqueued
      · -- The filter accepted the datagram, and it drops those of other groups.
        obtain rfl : data' = data := by simpa using hnew
        refine Or.inr fun hforeign => hdropped ?_
        rw [run_program_of_foreign hforeign] at hrun
        exact (Except.ok.inj hrun).symm

/-- What a guarded session hands over is in the group. -/
theorem Guarded.inGroup {g : UInt32} {s : Session} (h : Guarded g s) {mode : Mode}
    {handlers : Handlers σ β} {x : σ} {data : Bytes} {e : Event} {m : Message}
    (he : (data, e) ∈ handed mode handlers s x) (halone : Message.Alone data m) : e.InGroup g := by
  obtain ⟨arrival, hqueued, y, hby⟩ := mem_handed he
  rw [Socket.eq_datagram_of_read (mem_handedBy hby).1] at hqueued
  exact inGroup_of_not_foreign halone hby (h.queue data hqueued)

/-- One step, unless it binds, keeps the guard and hands over nothing of another group. -/
theorem Guarded.step {g : UInt32} {s : Session} (h : Guarded g s) {step : Step}
    (hbind : step.isBind = false) :
    Guarded g (step.after s) ∧
      ∀ data e m, (data, e) ∈ step.handed s → Message.Alone data m → e.InGroup g := by
  cases step with
  | multicast data => exact ⟨h.multicast data, fun _ _ _ he => by simp [Step.handed] at he⟩
  | bind group => simp [Step.isBind] at hbind
  | dispatch mode handlers x =>
    exact ⟨h.dispatch mode handlers x, fun _ _ _ he halone => h.inGroup he halone⟩
  | dispatchEvents mode visit x =>
    rw [Step.after, dispatchEvents_eq_dispatch]
    exact ⟨h.dispatch mode _ x, fun _ _ _ he halone => h.inGroup he halone⟩

/-- A guarded session delivers events of the group only. -/
theorem Guarded.delivers {g : UInt32} {s : Session} (h : Guarded g s) : Delivers g s := by
  intro steps hbind data e m he halone
  induction steps generalizing s with
  | nil => simp [handedAlong] at he
  | cons step rest ih =>
    obtain ⟨hguard, hhere⟩ := h.step (hbind step List.mem_cons_self)
    rcases List.mem_append.mp he with he | he
    · exact hhere data e m he halone
    · exact ih hguard (fun step' hstep' => hbind step' (List.mem_cons_of_mem _ hstep')) he

/-! ## The queue at the binding -/

/-- One blocking dispatch after another gets to a datagram of another group in the queue. -/
theorem exists_handedAlong_of_foreign {g : UInt32} {s : Session} {before behind : List Arrival}
    {data : Bytes} (hswitch : s.CanSwitch) (hforeign : s.Foreign g data)
    (hqueue : s.event.socket.queue = before ++ .datagram data :: behind) :
    ∃ steps : List Step, (∀ step ∈ steps, step.isBind = false) ∧
      ∃ e m, (data, e) ∈ handedAlong steps s ∧ Message.Alone data m ∧ ¬ e.InGroup g := by
  let look : Step := .dispatchEvents .blocking Event.lookOn ()
  -- One look takes one arrival, so the induction is on what stands in front of the datagram.
  induction before generalizing s with
  | nil =>
    obtain ⟨m, t, group, halone, hread, hnotifies, hgroup, hother⟩ := hforeign
    obtain ⟨e, rfl, he⟩ := exists_handedBy_ofEvents Event.lookOn () hread halone.only hnotifies
    refine ⟨[look], by simp [look, Step.isBind], e, m, ?_, halone, ?_⟩
    · have hfirst : s.event.socket.queue.take 1 = [.datagram data] := by rw [hqueue]; rfl
      simp only [handedAlong, List.append_nil, look, Step.handed, handed, hswitch _, hfirst,
        handedFrom]
      exact List.mem_append_left _ he
    · rw [Event.inGroup_iff]
      intro hin
      have hpresent : e.table.contains .sampleGroup := by
        cases hget : e.table.get? .sampleGroup with
        | none => simp [AttrTable.u32?, hget] at hgroup
        | some payload => simp [AttrTable.contains, hget]
      exact hother (Option.some.inj (hgroup.symm.trans (hin hpresent)))
  | cons arrival before ih =>
    obtain ⟨hrest, hswitch'⟩ :=
      dispatch_blocking_takes_one (.ofEvents Event.lookOn) () hswitch hqueue
    obtain ⟨socket, hstate, -, hcapacity, -⟩ :=
      exists_socket_dispatch .blocking (.ofEvents Event.lookOn) s ()
    have hafter : look.after s = s.withSocket socket := by
      rw [← hstate, ← dispatchEvents_eq_dispatch]
      rfl
    rw [hstate] at hrest hswitch'
    have hforeign' : (s.withSocket socket).Foreign g data :=
      (foreign_congr (family_withSocket s socket) hcapacity).mpr hforeign
    obtain ⟨steps, hbind, e, m, he, halone, hother⟩ := ih hswitch' hforeign' hrest
    refine ⟨look :: steps, ?_, e, m, ?_, halone, hother⟩
    · simpa [look, Step.isBind] using hbind
    · rw [handedAlong, hafter]
      exact List.mem_append_right _ he

/-- A session that was bound to a group delivers events of that group only, exactly when its queue
held no datagram of another group at the time the filter came into force. -/
theorem delivers_bindGroupAmid_iff {gap : List Bytes} {g : UInt32} {s : Session}
    (hbound : (bindGroupAmid gap g s).result = .ok ()) (hswitch : s.CanSwitch) :
    Delivers g (bindGroupAmid gap g s).state ↔
      ∀ data, .datagram data ∈ (s.amid gap).event.socket.queue → ¬ s.Foreign g data := by
  obtain ⟨socket, hevent, hfilter, hqueue, hcapacity, hfaults⟩ := bindGroupAmid_ok hbound
  -- Of what `Foreign` and `CanSwitch` look at, binding changes nothing.
  have hforeign (data : Bytes) : (bindGroupAmid gap g s).state.Foreign g data ↔ s.Foreign g data :=
    foreign_congr (by rw [hevent]; rfl) (by rw [hevent]; exact hcapacity)
  have hqueue' : (bindGroupAmid gap g s).state.event.socket.queue =
      (s.amid gap).event.socket.queue := by
    rw [hevent]
    exact hqueue
  constructor
  · intro hdelivers data hdata hother
    have hswitch' : (bindGroupAmid gap g s).state.CanSwitch := by
      intro n
      rw [hevent]
      exact (congrFun (congrFun hfaults n) .setMode).trans (hswitch n)
    obtain ⟨before, behind, hsplit⟩ := List.append_of_mem hdata
    obtain ⟨steps, hbind, e, m, he, halone, hnot⟩ :=
      exists_handedAlong_of_foreign hswitch' ((hforeign data).mpr hother) (hqueue'.trans hsplit)
    exact hnot (hdelivers steps hbind data e m he halone)
  · intro hclean
    have hguarded : Guarded g (bindGroupAmid gap g s).state := by
      refine ⟨by rw [hevent]; exact hfilter, fun data hdata => ?_⟩
      rw [hforeign]
      exact hclean data (hqueue' ▸ hdata)
    exact hguarded.delivers

/-- A binding to another group during which a sample of that group arrives. -/
theorem delivers_bindGroupAmid_iff_rebind :
    let s := (bindGroup 7 (withArrivals [.datagram (notification 7)])).state
    (bindGroupAmid [notification 8] 8 s).result = .ok () ∧ s.CanSwitch ∧
      (Delivers 8 (bindGroupAmid [notification 8] 8 s).state ↔
        ∀ data, .datagram data ∈ (s.amid [notification 8]).event.socket.queue →
          ¬ s.Foreign 8 data) :=
  have hswitch := fun _ => rfl
  ⟨rfl, hswitch, delivers_bindGroupAmid_iff rfl hswitch⟩

/-- A sample of group 8 that arrives between opening a session and binding it to group 7 is handed
over behind the binding. -/
theorem not_delivers_of_early_sample :
    ∃ s, (assemble (groupNames true true) (Connection.accept samplingPeer)
        (Connection.accept samplingPeer)).result = .ok s ∧
      (bindGroup 7 (Step.after s (.multicast (notification 8)))).result = .ok () ∧
      ¬ Delivers 7 (bindGroup 7 (Step.after s (.multicast (notification 8)))).state := by
  refine ⟨_, rfl, ?_, ?_⟩
  · rfl
  intro hdelivers
  have hin := hdelivers [.dispatch .nonBlocking .collecting []] (by simp [Step.isBind])
    (notification 8) (.sample ⟨AttrTable.empty.insert .sampleGroup [8, 0, 0, 0]⟩)
    ⟨⟨28, 29, 0, 0, 0⟩, [0, 1, 0, 0, 8, 0, 3, 0, 8, 0, 0, 0]⟩ (by decide +kernel)
    ⟨by decide +kernel, by decide +kernel, by decide +kernel⟩
  rw [Event.inGroup_iff] at hin
  exact absurd (hin (by decide +kernel)) (by decide +kernel)

end Session

end SampleTap
