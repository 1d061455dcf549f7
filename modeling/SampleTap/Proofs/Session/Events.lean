import SampleTap.Proofs.Session.Handing

/-!
# The events of a datagram

Reading a datagram for its events ends at the first message that closes the batch, reports a failure
or is a notification that cannot be read (`Session.endsAt`). The events of the datagram are those of
the notifications in front of that message (`Session.eventsOf`), and an arrival that is no datagram
has none (`Session.eventsIn`).

A visitor of events is told just these, in order, until it stops (`reactTo_along`). One that never
stops is folded over them, arrival by arrival as a dispatch takes them off the queue
(`dispatch_ofEvents`); looking at one arrival alone shows its events (`shown_eq_eventsIn`).
-/

namespace SampleTap

variable {ι σ τ β γ : Type}

/-! ## Visitors -/

/-- Shows items in order, until the visitor stops. -/
def Visitor.along (visit : Visitor ι σ β) : σ → List ι → σ × Flow β
  | x, [] => (x, .proceed)
  | x, item :: rest =>
    match visit x item with
    | (x, .stop value) => (x, .stop value)
    | (x, .proceed) => Visitor.along visit x rest

/-- The wish of a visitor that stops, and the end that comes without one that does. -/
def Flow.settle (stopped : β → γ) (otherwise : Except Error γ) : Flow β → Except Error γ
  | proceed => otherwise
  | stop value => .ok (stopped value)

/-- What a visitor that never stops has to say, said by one that might. -/
def Flow.widen : Flow Empty → Flow β
  | proceed => .proceed

/-- The end of a batch without a visitor that stops. -/
def Batch.widen : Batch Empty → Batch β
  | more => .more
  | done => .done

/-- The end of a turn without a visitor that stops. -/
def Socket.Turn.widen : Socket.Turn Empty → Socket.Turn β
  | .again => .again
  | .over flow => .over flow.widen

namespace Visitor

variable {visit : Visitor ι σ β}

theorem along_cons_of_proceed {x : σ} {item : ι} (rest : List ι)
    (h : (visit x item).2 = .proceed) :
    visit.along x (item :: rest) = visit.along (visit x item).1 rest := by
  rcases hvisited : visit x item with ⟨y, _ | value⟩
  · simp only [along, hvisited]
  · simp [hvisited] at h

theorem along_cons_of_stop {x : σ} {item : ι} (rest : List ι) {value : β}
    (h : (visit x item).2 = .stop value) :
    visit.along x (item :: rest) = ((visit x item).1, .stop value) := by
  rcases hvisited : visit x item with ⟨y, _ | value'⟩
  · simp [hvisited] at h
  · rw [hvisited] at h
    simp only [along, hvisited]
    exact congrArg (Prod.mk y) h

/-- A visitor that stopped is shown nothing more. -/
theorem along_append (x : σ) (items later : List ι) :
    visit.along x (items ++ later) =
      match visit.along x items with
      | (y, .stop value) => (y, .stop value)
      | (y, .proceed) => visit.along y later := by
  induction items generalizing x with
  | nil => rfl
  | cons item rest ih =>
    rw [List.cons_append]
    cases hflow : (visit x item).2 with
    | proceed =>
      rw [along_cons_of_proceed _ hflow, along_cons_of_proceed _ hflow]
      exact ih (visit x item).1
    | stop value => rw [along_cons_of_stop _ hflow, along_cons_of_stop _ hflow]

/-- A visitor that never stops is folded over the items. -/
theorem along_of_proceed (h : ∀ x item, (visit x item).2 = .proceed) (x : σ) (items : List ι) :
    visit.along x items = (items.foldl (fun y item => (visit y item).1) x, .proceed) := by
  induction items generalizing x with
  | nil => rfl
  | cons item rest ih => rw [along_cons_of_proceed rest (h x item), ih, List.foldl_cons]

end Visitor

/-- The visitor that keeps every event. -/
def Event.gather : Visitor Event (List Event) Empty := fun events event =>
  (events ++ [event], .proceed)

theorem Event.along_gather (events later : List Event) :
    Visitor.along Event.gather events later = (events ++ later, .proceed) := by
  rw [Visitor.along_of_proceed fun _ _ => rfl]
  simp only [Event.gather]
  rw [List.foldl_append_eq_append, ← List.flatMap_def, List.flatMap_singleton']

/-! ## Control messages -/

namespace Batch

variable {visit : σ → Message → σ × Except Error (Flow β)} {fault? : Option Error} {m : Message}
  {rest : List Message} {x : σ}

/-- A report or the end of a reply ends a batch, whoever looks at it. -/
theorem runMessages_cons_of_last {visit' : τ → Message → τ × Except Error (Flow Empty)}
    (h : m.header.type = Message.errorType ∨ m.header.type = Message.doneType) (y : τ) :
    runMessages none visit fault? x (m :: rest) =
      (x, (runMessages none visit' fault? y (m :: rest)).2.map widen) := by
  rcases h with herror | hdone
  · have hreport : (ofReport m.payload : Except Error (Batch Empty)).map widen =
        (ofReport m.payload : Except Error (Batch β)) := by
      unfold ofReport
      cases Message.Report.read m.payload with
      | error e => rfl
      | ok report =>
        dsimp only
        split_ifs
        · rfl
        · rfl
    simp [runMessages, relevant, herror, hreport, Message.errorType, Message.noopType,
      Message.overrunType]
  · simp [runMessages, relevant, hdone, Message.doneType, Message.errorType, Message.noopType,
      Message.overrunType, Except.map, widen]

/-- The other control messages are passed over. -/
theorem runMessages_cons_of_skipped (hcontrol : m.header.isControl)
    (h : ¬ (m.header.type = Message.errorType ∨ m.header.type = Message.doneType)) :
    runMessages none visit fault? x (m :: rest) = runMessages none visit fault? x rest := by
  simp only [Message.Header.isControl, decide_eq_true_eq] at hcontrol
  rw [← or_assoc] at hcontrol
  simp only [runMessages, relevant, Bool.not_true, Bool.false_eq_true, if_false]
  rw [if_pos (hcontrol.resolve_right h)]

end Batch

namespace Session

/-! ## Messages -/

/-- The event that a message tells: it must be a notification of the session's family, and one that
can be read. -/
def event? (s : Session) (m : Message) : Option Event :=
  if m.header.isControl = false ∧ m.header.type = s.event.family.id then
    match CommandHeader.split? m.payload with
    | none => none
    | some (command, attributes) =>
      match AttrTable.parse attributes with
      | .error _ => none
      | .ok t => some (.classify command.command t)
  else none

/-- Whether reading a datagram for its events ends at a message: it closes the batch or reports on a
request, or it is a notification of the family that cannot be read. -/
def endsAt (s : Session) (m : Message) : Bool :=
  if m.header.isControl then m.header.type = Message.errorType ∨ m.header.type = Message.doneType
  else m.header.type = s.event.family.id && (s.event? m).isNone

/-- The events of messages: those of the messages in front of the first at which reading ends. -/
def eventsAmong (s : Session) (messages : List Message) : List Event :=
  (messages.takeWhile fun m => !s.endsAt m).filterMap s.event?

/-- The events of a datagram. -/
def eventsOf (s : Session) (data : Bytes) : List Event := s.eventsAmong (Message.split data).1

/-- The events of an arrival, which has none unless it can be received. -/
def eventsIn (s : Session) (arrival : Arrival) : List Event :=
  match Socket.read s.event.socket.capacity arrival with
  | .error _ => []
  | .ok data => s.eventsOf data

/-- Whether two sessions read arrivals alike: they are of one family and have equal receive
buffers. -/
structure ReadsLike (s' s : Session) : Prop where
  family : s'.event.family = s.event.family
  capacity : s'.event.socket.capacity = s.event.socket.capacity

theorem ReadsLike.refl (s : Session) : s.ReadsLike s := ⟨rfl, rfl⟩

theorem ReadsLike.trans {s s' s'' : Session} (h' : s''.ReadsLike s') (h : s'.ReadsLike s) :
    s''.ReadsLike s :=
  ⟨h'.family.trans h.family, h'.capacity.trans h.capacity⟩

/-- Sessions that read alike find the same events in an arrival. -/
theorem ReadsLike.eventsIn {s s' : Session} (h : s'.ReadsLike s) : s'.eventsIn = s.eventsIn := by
  have hevent : s'.event? = s.event? := by
    funext m
    simp only [event?, h.family]
  funext arrival
  simp only [Session.eventsIn, eventsOf, eventsAmong, endsAt, hevent, h.family, h.capacity]

/-- Sessions that read alike do the same with an arrival. -/
theorem ReadsLike.reactTo {s s' : Session} (h : s'.ReadsLike s) (mode : Mode)
    (handlers : Handlers σ β) (x : σ) (arrival : Arrival) :
    s'.reactTo mode handlers x arrival = s.reactTo mode handlers x arrival := by
  simp only [Session.reactTo, h.family, h.capacity]

/-- Behind a message that ends a batch there are no events. -/
theorem eventsAmong_cons_of_endsAt {s : Session} {m : Message} (rest : List Message)
    (h : s.endsAt m = true) : s.eventsAmong (m :: rest) = [] := by
  simp [eventsAmong, h]

/-- A message that is passed brings its event, if it is one, in front of those behind it. -/
theorem eventsAmong_cons_of_not_endsAt {s : Session} {m : Message} (rest : List Message)
    (h : s.endsAt m = false) :
    s.eventsAmong (m :: rest) = (s.event? m).toList ++ s.eventsAmong rest := by
  cases hevent : s.event? m with
  | none => simp [eventsAmong, h, hevent]
  | some e => simp [eventsAmong, h, hevent]

/-! ## What a visitor is told -/

/-- What a visitor of events makes of a message that is not for the batch itself: it is told the
event of the message, if there is one. -/
theorem onType_eventVisitor_cases (visit : Visitor Event σ β) (s : Session) (x : σ) {m : Message}
    (hdata : m.header.isControl = false) :
    (s.endsAt m = true ∧ ∃ e, (eventVisitor visit).onType s.event.family.id x m = (x, .error e) ∧
        (eventVisitor Event.lookOn).onType s.event.family.id () m = ((), .error e)) ∨
      (s.endsAt m = false ∧
        (eventVisitor visit).onType s.event.family.id x m =
          ((visit.along x (s.event? m).toList).1, .ok (visit.along x (s.event? m).toList).2) ∧
        (eventVisitor Event.lookOn).onType s.event.family.id () m = ((), .ok .proceed)) := by
  by_cases htype : m.header.type = s.event.family.id
  · simp only [endsAt, event?, hdata, htype, CommandVisitor.onType, CommandVisitor.onMessage,
      eventVisitor]
    cases CommandHeader.split? m.payload with
    | none => simp
    | some split =>
      cases hparse : AttrTable.parse split.2 with
      | error e => simp [hparse]
      | ok t =>
        right
        simp only [hparse]
        rcases hvisited : visit x (.classify split.1.command t) with ⟨y, _ | value⟩
        · simp [Visitor.along, hvisited, Event.lookOn]
        · simp [Visitor.along, hvisited, Event.lookOn]
  · right
    simp [endsAt, event?, hdata, htype, CommandVisitor.onType, Visitor.along]

/-- A batch tells a visitor its events in order, and ends as it would without a visitor when that
one does not stop. -/
theorem runMessages_along (visit : Visitor Event σ β) (s : Session) (fault? : Option Error)
    (messages : List Message) (x : σ) :
    let told := visit.along x (s.eventsAmong messages)
    let ending := (Batch.runMessages none ((eventVisitor Event.lookOn).onType s.event.family.id)
      fault? () messages).2
    Batch.runMessages none ((eventVisitor visit).onType s.event.family.id) fault? x messages =
      (told.1, told.2.settle .stopped (ending.map Batch.widen)) := by
  induction messages generalizing x with
  | nil =>
    cases fault? with
    | none => rfl
    | some fault => rfl
  | cons m rest ih =>
    intro told ending
    by_cases hcontrol : m.header.isControl
    · by_cases hlast : m.header.type = Message.errorType ∨ m.header.type = Message.doneType
      · have hends : s.endsAt m = true := by simp [endsAt, hcontrol, hlast]
        have htold : told = (x, .proceed) := by
          show visit.along x (s.eventsAmong (m :: rest)) = (x, .proceed)
          rw [eventsAmong_cons_of_endsAt rest hends, Visitor.along]
        rw [htold]
        exact Batch.runMessages_cons_of_last hlast ()
      · have hgoes : s.endsAt m = false := by simp [endsAt, hcontrol, hlast]
        have hnone : s.event? m = none := by simp [event?, hcontrol]
        have htold : told = visit.along x (s.eventsAmong rest) := by
          show visit.along x (s.eventsAmong (m :: rest)) = _
          rw [eventsAmong_cons_of_not_endsAt rest hgoes, hnone]
          rfl
        have hending : ending = (Batch.runMessages none
            ((eventVisitor Event.lookOn).onType s.event.family.id) fault? () rest).2 :=
          congrArg Prod.snd (Batch.runMessages_cons_of_skipped hcontrol hlast)
        rw [Batch.runMessages_cons_of_skipped hcontrol hlast, htold, hending]
        exact ih x
    · rw [Bool.not_eq_true] at hcontrol
      have hlook : Batch.runMessages none ((eventVisitor Event.lookOn).onType s.event.family.id)
          fault? () (m :: rest) = _ := Batch.runMessages_cons hcontrol
      rw [Batch.runMessages_cons hcontrol]
      rcases onType_eventVisitor_cases visit s x hcontrol with
        ⟨hends, e, hvisited, hlooked⟩ | ⟨hgoes, hvisited, hlooked⟩
      · have htold : told = (x, .proceed) := by
          show visit.along x (s.eventsAmong (m :: rest)) = (x, .proceed)
          rw [eventsAmong_cons_of_endsAt rest hends, Visitor.along]
        rw [hlooked] at hlook
        have hending : ending = .error e := congrArg Prod.snd hlook
        rw [hvisited, htold, hending]
        rfl
      · rw [hlooked] at hlook
        have hending : ending = (Batch.runMessages none
            ((eventVisitor Event.lookOn).onType s.event.family.id) fault? () rest).2 :=
          congrArg Prod.snd hlook
        have htold : told =
            match visit.along x (s.event? m).toList with
            | (y, .stop value) => (y, .stop value)
            | (y, .proceed) => visit.along y (s.eventsAmong rest) := by
          show visit.along x (s.eventsAmong (m :: rest)) = _
          rw [eventsAmong_cons_of_not_endsAt rest hgoes, Visitor.along_append]
        rw [hvisited, htold, hending]
        rcases visit.along x (s.event? m).toList with ⟨y, _ | value⟩
        · exact ih y
        · rfl

/-- An arrival tells a visitor its events in order, and asks for another as it would without a
visitor when that one does not stop. -/
theorem reactTo_along (visit : Visitor Event σ β) (s : Session) (mode : Mode) (x : σ)
    (arrival : Arrival) :
    let told := visit.along x (s.eventsIn arrival)
    let ending := (s.reactTo mode (.ofEvents Event.lookOn) () arrival).2
    s.reactTo mode (.ofEvents visit) x arrival =
      (told.1, told.2.settle (fun value => .over (.stop value))
        (ending.map Socket.Turn.widen)) := by
  simp only [reactTo, Socket.reaction, Handlers.onCommand_ofEvents, eventsIn]
  cases Socket.read s.event.socket.capacity arrival with
  | error e =>
    dsimp only [Visitor.along, Flow.settle]
    split_ifs
    · rfl
    · rfl
  | ok data =>
    cases data with
    | nil =>
      simp only [eventsOf, Message.split_nil, eventsAmong, List.takeWhile_nil, List.filterMap_nil]
      rfl
    | cons b rest =>
      have hrun := runMessages_along visit s (Message.split (b :: rest)).2
        (Message.split (b :: rest)).1 x
      simp only [List.isEmpty_cons, Bool.false_eq_true, if_false, eventsOf, Batch.run, hrun]
      rcases visit.along x (s.eventsAmong (Message.split (b :: rest)).1) with ⟨y, _ | value⟩
      · rcases Batch.runMessages none ((eventVisitor Event.lookOn).onType s.event.family.id)
          (Message.split (b :: rest)).2 () (Message.split (b :: rest)).1 with
          ⟨_, e | _ | _ | value⟩
        · rfl
        · rfl
        · rfl
        · exact value.elim
      · rfl

/-! ## Visitors that never stop -/

variable {visit : Visitor Event σ β}

/-- A visitor that never stops is folded over the events of an arrival. -/
theorem fst_reactTo_ofEvents (hvisit : ∀ x event, (visit x event).2 = .proceed) (s : Session)
    (mode : Mode) (x : σ) (arrival : Arrival) :
    (s.reactTo mode (.ofEvents visit) x arrival).1 =
      (s.eventsIn arrival).foldl (fun y event => (visit y event).1) x := by
  rw [reactTo_along, Visitor.along_of_proceed hvisit]

/-- A pass takes arrivals off the front of a queue and shows their events. -/
theorem passOver_ofEvents (hvisit : ∀ x event, (visit x event).2 = .proceed) (s : Session) (x : σ)
    (queue : List Arrival) :
    ∃ taken, queue = taken ++ (s.passOver (.ofEvents visit) x queue).unread ∧
      (s.passOver (.ofEvents visit) x queue).state =
        (taken.flatMap s.eventsIn).foldl (fun y event => (visit y event).1) x := by
  induction queue generalizing x with
  | nil => exact ⟨[], rfl, rfl⟩
  | cons arrival rest ih =>
    have hfirst := fst_reactTo_ofEvents hvisit s .nonBlocking x arrival
    by_cases hagain : (s.reactTo .nonBlocking (.ofEvents visit) x arrival).2 = .ok .again
    · obtain ⟨taken, hqueue, hstate⟩ := ih (s.reactTo .nonBlocking (.ofEvents visit) x arrival).1
      refine ⟨arrival :: taken, ?_, ?_⟩
      · rw [passOver_cons_of_again rest hagain, List.cons_append, ← hqueue]
      · rw [passOver_cons_of_again rest hagain, hstate, hfirst, List.flatMap_cons,
          List.foldl_append]
    · refine ⟨[arrival], ?_, ?_⟩
      · rw [passOver_cons_of_ne_again rest hagain]
        rfl
      · rw [passOver_cons_of_ne_again rest hagain, List.flatMap_singleton]
        exact hfirst

/-! ## Dispatches -/

/-- A dispatch to a visitor of events that never stops takes arrivals off the front of the queue and
shows their events in order, whatever it ends with. -/
theorem dispatch_ofEvents (hvisit : ∀ x event, (visit x event).2 = .proceed) (mode : Mode)
    (s : Session) (x : σ) :
    ∃ taken, s.event.socket.queue =
        taken ++ (dispatch mode (.ofEvents visit) (s, x)).state.1.event.socket.queue ∧
      (dispatch mode (.ofEvents visit) (s, x)).state.2 =
        (taken.flatMap s.eventsIn).foldl (fun y event => (visit y event).1) x := by
  cases hfault : s.event.socket.faults s.event.socket.made .setMode with
  | some errno =>
    obtain ⟨hstate, -⟩ := dispatch_error mode (.ofEvents visit) x hfault
    rw [hstate]
    exact ⟨[], rfl, rfl⟩
  | none =>
    cases mode with
    | nonBlocking =>
      obtain ⟨_, hstate, -⟩ := dispatch_nonBlocking (.ofEvents visit) x hfault
      rw [hstate]
      exact passOver_ofEvents hvisit s x s.event.socket.queue
    | blocking =>
      cases hqueue : s.event.socket.queue with
      | nil =>
        obtain ⟨hstate, -⟩ := dispatch_blocking_nil (.ofEvents visit) x hfault hqueue
        rw [hstate]
        exact ⟨[], hqueue.symm, rfl⟩
      | cons arrival rest =>
        obtain ⟨hstate, -⟩ := dispatch_blocking_cons (.ofEvents visit) x hfault hqueue
        refine ⟨[arrival], by rw [hstate]; rfl, ?_⟩
        rw [hstate, List.flatMap_singleton]
        exact fst_reactTo_ofEvents hvisit s .blocking x arrival

/-! ## One arrival alone -/

/-- The session over a connection that has one arrival to receive and does not fail. -/
def alone (s : Session) (arrival : Arrival) : Session :=
  s.withSocket { s.event.socket with queue := [arrival], faults := fun _ _ => none }

/-- A blocking dispatch to the visitor that keeps every event, of one arrival alone. -/
def lookAt (s : Session) (arrival : Arrival) : Ran Effect (Session × List Event) (Flow Empty) :=
  dispatchEvents .blocking Event.gather (s.alone arrival, [])

/-- A look at an arrival is the reaction to it of a visitor that gathers. -/
theorem lookAt_eq (s : Session) (arrival : Arrival) :
    (s.lookAt arrival).state.2 = (s.reactTo .blocking (.ofEvents Event.gather) [] arrival).1 ∧
      (s.lookAt arrival).result =
        (s.reactTo .blocking (.ofEvents Event.gather) [] arrival).2.map Socket.Turn.flow := by
  have halike : (s.alone arrival).ReadsLike s := ⟨rfl, rfl⟩
  obtain ⟨hstate, hresult⟩ := dispatch_blocking_cons (.ofEvents Event.gather)
    (s := s.alone arrival) [] rfl rfl
  rw [lookAt, dispatchEvents_eq_dispatch, hstate, hresult, halike.reactTo]
  exact ⟨rfl, rfl⟩

/-- The events that a visitor of events is shown because of an arrival. -/
def shown (s : Session) (arrival : Arrival) : List Event := (s.lookAt arrival).state.2

/-- What is shown because of an arrival are the events of the messages in front of the first at
which reading its datagram ends. -/
theorem shown_eq_eventsIn (s : Session) (arrival : Arrival) :
    s.shown arrival = s.eventsIn arrival := by
  rw [shown, (s.lookAt_eq arrival).1, reactTo_along, Event.along_gather, List.nil_append]

theorem ReadsLike.shown {s s' : Session} (h : s'.ReadsLike s) : s'.shown = s.shown := by
  funext arrival
  rw [shown_eq_eventsIn, shown_eq_eventsIn, h.eventsIn]

end Session
end SampleTap
