import SampleTap.Proofs.Session.Capturing

/-!
# The life of a capture

A session has a capture from a start that succeeded until the capture is finished. What one task
can do to it is said once (`Tenure`): which destination frames go to before the task and behind it,
and which moves are made on it. Everything about a run follows by induction over its tasks
(`capturing_afterAll`).
-/

namespace SampleTap

/-! ## Moves on a destination -/

/-- The moves that are made on destinations of frames. -/
def movesIn (trace : List Effect) : List Move :=
  trace.filterMap fun effect => effect.sinkCall?.bind SinkCall.move?

theorem movesIn_append (trace trace' : List Effect) :
    movesIn (trace ++ trace') = movesIn trace ++ movesIn trace' := List.filterMap_append

theorem movesIn_sink (calls : List SinkCall) :
    movesIn (calls.map Effect.sink) = calls.filterMap SinkCall.move? := by
  rw [movesIn, List.filterMap_map]
  rfl

theorem movesIn_release (sink : Sink) : movesIn (sink.release.map Effect.sink) = [] := by
  rw [movesIn_sink, Sink.moves_release]

/-- The end of a capture is one flush of its destination. -/
theorem movesIn_finish (capture : Capture) :
    movesIn (capture.finish.1.map Effect.sink) =
      (Sink.flush capture.sink).trace.filterMap SinkCall.move? := by
  rw [movesIn_sink, Capture.finish, List.filterMap_append, Sink.moves_release, List.append_nil,
    Capture.onSink_eq]

theorem movesIn_of_quiet {trace : List Effect} (h : ∀ effect ∈ trace, effect.sinkCall? = none) :
    movesIn trace = [] := by
  apply List.filterMap_eq_nil_iff.mpr
  intro effect heffect
  rw [h effect heffect]
  rfl

namespace Sink

/-- Whether moves are made on one destination in order, and what they make of it. -/
inductive Answers : Sink → List Move → Sink → Prop
  | nil (sink : Sink) : Answers sink [] sink
  | frame (r : Pcap.Record) {sink sink' : Sink} {moves : List Move}
      (hlater : Answers (write r sink).state moves sink') :
      Answers sink (.framed r.frame r.wholeLength (succeeded (write r sink).result) :: moves) sink'
  | flush {sink sink' : Sink} {moves : List Move}
      (hlater : Answers (flush sink).state moves sink') :
      Answers sink (.flushed (succeeded (flush sink).result) :: moves) sink'

theorem Answers.append {sink sink' sink'' : Sink} {moves moves' : List Move}
    (h : Answers sink moves sink') (h' : Answers sink' moves' sink'') :
    Answers sink (moves ++ moves') sink'' := by
  induction h with
  | nil => exact h'
  | frame r _ ih => exact .frame r (ih h')
  | flush _ ih => exact .flush (ih h')

/-- Writing a record is one move, answered as the sink is at that time. -/
theorem answers_write (r : Pcap.Record) (sink : Sink) :
    sink.Answers ((write r sink).trace.filterMap SinkCall.move?) (write r sink).state := by
  rw [moves_write]
  exact .frame r (.nil _)

theorem answers_flush (sink : Sink) :
    sink.Answers ((flush sink).trace.filterMap SinkCall.move?) (flush sink).state := by
  rw [moves_flush]
  exact .flush (.nil _)

end Sink

/-- A write of a capture is a move on its destination, or two when the frame was taken. -/
theorem Capture.answers_write (datagram : Bytes) (c : Capture) :
    c.sink.Answers ((c.write datagram).trace.filterMap SinkCall.move?)
      (c.write datagram).state.sink := by
  have hanswers := c.sink.answers_write (c.refill datagram).record
  obtain ⟨e, -, hwrite⟩ | ⟨-, hwrite⟩ := c.write_cases datagram
  · rw [hwrite]
    exact hanswers
  · rw [hwrite, List.filterMap_append]
    exact hanswers.append (Sink.answers_flush _)

namespace Session

/-! ## Recording -/

/-- The loop that fills a capture makes its moves on the capture's destination. -/
theorem answers_record (side : Side) (proceeds : Bytes → Except Error Bool) (socket : Socket)
    (capture : Capture) :
    let ran := record side proceeds socket capture
    capture.sink.Answers (movesIn ran.trace) ran.state.2.sink := by
  generalize hqueue : socket.queue = queue
  induction queue generalizing socket capture with
  | nil =>
    rw [record_nil side proceeds hqueue]
    exact .nil capture.sink
  | cons arrival rest ih =>
    rw [record_cons side proceeds hqueue]
    cases Socket.read socket.capacity arrival with
    | error e => exact .nil capture.sink
    | ok data =>
      by_cases hempty : data.isEmpty
      · simp only [hempty, if_true]
        exact .nil capture.sink
      · have hwrite := capture.answers_write data
        rw [← movesIn_sink] at hwrite
        simp only [hempty, Bool.false_eq_true, if_false]
        rcases (capture.write data).result with e | _
        · exact hwrite
        · rcases proceeds data with e | _ | _
          · exact hwrite
          · exact hwrite
          · have hlater := ih (Socket.afterReceive socket arrival rest)
              (capture.write data).state rfl
            simp only [Ran.after, movesIn_append]
            exact hwrite.append hlater

/-- The moves of recording the description are answered by the sink of the capture. -/
theorem answers_recordDescription (s : Session) (capture : Capture) :
    let ran := recordDescription (s, capture)
    ran.state.1.capture = s.capture ∧
      capture.sink.Answers (movesIn ran.trace) ran.state.2.sink := by
  intro ran
  have hran : ran = recordDescription (s, capture) := rfl
  rw [recordDescription_eq] at hran
  cases hsent : (Socket.send s.control.describeRequest.finish s.control.socket).result with
  | error e =>
    simp only [hsent] at hran
    rw [hran]
    exact ⟨rfl, .nil capture.sink⟩
  | ok _ =>
    simp only [hsent] at hran
    rw [hran]
    exact ⟨rfl, answers_record .control _ s.control.requested.socket capture⟩

/-! ## Tasks -/

namespace Task

/-- Whether a task starts a capture. -/
def isStart : Task → Bool
  | startCapture _ _ _ => true
  | startCaptureFile _ _ => true
  | _ => false

/-- The destination that a task brings along for a capture. -/
def destination? : Task → Option Sink
  | startCapture sink _ _ => some sink
  | startCaptureFile path _ =>
    match Path.openWriter path with
    | .error _ => none
    | .ok writer =>
      match (PcapFile.create Capture.defaultSnaplen writer).result with
      | .error _ => none
      | .ok file => some (.file file)
  | _ => none

end Task

/-- The destination of the capture that is under way. -/
def sink? (s : Session) : Option Sink := s.capture.map Capture.sink

theorem sink?_of_idle {s : Session} (h : s.capture = none) : s.sink? = none :=
  congrArg (Option.map Capture.sink) h

theorem sink?_of_active {s : Session} {capture : Capture} (h : s.capture = some capture) :
    s.sink? = some capture.sink :=
  congrArg (Option.map Capture.sink) h

/-- What a task that ends with `result` can do to the capture of a session: where frames go before
it and behind it, and the moves that it makes there. -/
inductive Tenure (task : Task) (result : Except Error Unit) :
    Option Sink → List Move → Option Sink → Prop
  /-- Without a capture and a destination nothing comes of it. -/
  | idle (hnone : task.destination? = none) (hresult : task.isStart → ∃ e, result = .error e) :
      Tenure task result none [] none
  /-- A start that fails keeps no capture. -/
  | failed {sink sink' : Sink} {moves : List Move} {e : Error}
      (hsink : task.destination? = some sink) (hanswers : sink.Answers moves sink')
      (hresult : result = .error e) : Tenure task result none moves none
  | started {sink sink' : Sink} {moves : List Move} (hsink : task.destination? = some sink)
      (hanswers : sink.Answers moves sink') (hresult : result = .ok ()) :
      Tenure task result none moves (some sink')
  /-- A capture that is under way stays, whatever the result, and a start fails. -/
  | kept {sink sink' : Sink} {moves : List Move} (hgoing : task ≠ .finishCapture)
      (hresult : task.isStart → ∃ e, result = .error e) (hanswers : sink.Answers moves sink') :
      Tenure task result (some sink) moves (some sink')
  | finished {sink sink' : Sink} {moves : List Move} (hfinish : task = .finishCapture)
      (hanswers : sink.Answers moves sink') : Tenure task result (some sink) moves none

/-- Whether a run of a task does to the capture what it can. -/
abbrev Tenured (task : Task) (s : Session) (ran : Ran Effect Session Unit) : Prop :=
  Tenure task ran.result s.sink? (movesIn ran.trace) ran.state.sink?

/-- A task that is not about captures leaves the sink where it is. -/
theorem Aside.tenured {task : Task} {s : Session} {ran : Ran Effect Session Unit}
    (h : Aside s ran.state ran.trace) (hcapture : task.onCapture = false) :
    Tenured task s ran := by
  have hmoves : movesIn ran.trace = [] := movesIn_of_quiet h.calls
  have hsink : ran.state.sink? = s.sink? := congrArg (Option.map Capture.sink) h.capture
  have htask : task.isStart = false ∧ task.destination? = none ∧ task ≠ .finishCapture := by
    cases task <;> simp_all [Task.onCapture, Task.isStart, Task.destination?]
  obtain ⟨hstart, hnone, hgoing⟩ := htask
  rw [Tenured, hmoves, hsink]
  cases s.sink? with
  | none => exact .idle hnone (by simp [hstart])
  | some sink => exact .kept hgoing (by simp [hstart]) (.nil sink)

/-- A start puts its sink in place if it succeeds, and leaves the active one if there is one. -/
theorem tenured_startCapture {task : Task} {sink : Sink} (hsink : task.destination? = some sink)
    (hgoing : task ≠ .finishCapture) (snaplen : UInt32) (clock : Clock) (s : Session) :
    Tenured task s (startCapture sink snaplen clock s) := by
  unfold Tenured
  cases hcapture : s.capture with
  | some capture =>
    rw [startCapture_of_active (by rw [hcapture]; rfl), movesIn_release, sink?_of_active hcapture]
    exact .kept hgoing (fun _ => ⟨_, rfl⟩) (.nil capture.sink)
  | none =>
    have hidle := sink?_of_idle hcapture
    by_cases hroom : Frame.headerLength < snaplen.toNat
    · obtain ⟨hnone, hanswers⟩ := answers_recordDescription s { sink, snaplen, clock }
      rw [startCapture_eq hcapture hroom sink clock, hidle]
      dsimp only
      cases (recordDescription (s, { sink, snaplen, clock })).result with
      | error e =>
        dsimp only
        rw [movesIn_append, movesIn_release, List.append_nil,
          sink?_of_idle (hnone.trans hcapture)]
        exact .failed hsink hanswers rfl
      | ok _ => exact .started hsink hanswers rfl
    · rw [startCapture_of_short hcapture (Nat.le_of_not_lt hroom), movesIn_release]
      dsimp only
      rw [hidle]
      exact .failed hsink (.nil sink) rfl

theorem tenured_startCaptureFile (path : String) (clock : Clock) (s : Session) :
    Tenured (.startCaptureFile path clock) s (startCaptureFile path clock s) := by
  unfold Tenured startCaptureFile
  cases hcapture : s.capture with
  | some capture =>
    rw [if_pos Option.isSome_some, sink?_of_active hcapture]
    exact .kept (by simp) (fun _ => ⟨_, rfl⟩) (.nil capture.sink)
  | none =>
    rw [if_neg (by simp)]
    cases hopened : Path.openWriter path with
    | error failure =>
      rw [sink?_of_idle hcapture]
      exact .idle (by rw [Task.destination?, hopened]) fun _ => ⟨_, rfl⟩
    | ok writer =>
      -- Neither creating a file nor writing its header is a move.
      have hquiet : movesIn ((if Path.isStandardOutput path then [] else
          [Effect.sink (.created path)]) ++ (PcapFile.create Capture.defaultSnaplen
            writer).trace.map (Effect.sink ∘ .written)) = [] := by
        rw [movesIn_append, ← List.map_map, movesIn_sink, Sink.moves_written, List.append_nil]
        split <;> rfl
      dsimp only
      cases hcreated : (PcapFile.create Capture.defaultSnaplen writer).result with
      | error e =>
        dsimp only
        rw [hquiet, sink?_of_idle hcapture]
        exact .idle (by simp only [Task.destination?, hopened, hcreated]) fun _ => ⟨_, rfl⟩
      | ok file =>
        have hsink : (Task.startCaptureFile path clock).destination? = some (.file file) := by
          simp only [Task.destination?, hopened, hcreated]
        dsimp only [Ran.after]
        rw [movesIn_append, hquiet, List.nil_append]
        exact tenured_startCapture hsink (by simp) Capture.defaultSnaplen clock s

/-- Recording works on the sink in place, be it with an error. -/
theorem tenured_recordEvents (s : Session) : Tenured .recordEvents s (recordEvents s) := by
  unfold Tenured recordEvents
  cases hcapture : s.capture with
  | none =>
    rw [sink?_of_idle hcapture]
    exact .idle rfl (by simp [Task.isStart])
  | some capture =>
    have hswitched := aside_setMode .blocking s
    have hquiet := movesIn_of_quiet hswitched.calls
    rw [sink?_of_active hcapture]
    dsimp only
    cases (setMode .blocking s).result with
    | error e =>
      dsimp only
      rw [hquiet, sink?_of_active (hswitched.capture.trans hcapture)]
      exact .kept (by simp) (by simp [Task.isStart]) (.nil capture.sink)
    | ok _ =>
      dsimp only
      rw [movesIn_append, hquiet, List.nil_append]
      exact .kept (by simp) (by simp [Task.isStart]) (answers_record .event _ _ capture)

/-- Finishing takes the sink away, be it with an error. -/
theorem finishCapture_of_active {s : Session} {capture : Capture}
    (h : s.capture = some capture) :
    finishCapture s =
      ⟨{ s with capture := none }, capture.finish.1.map .sink, capture.finish.2⟩ := by
  rw [finishCapture, releaseCapture, h]
  rfl

/-- Behind a finish there is no sink. -/
theorem tenured_finishCapture (s : Session) : Tenured .finishCapture s (finishCapture s) := by
  unfold Tenured
  cases hcapture : s.capture with
  | none =>
    rw [finishCapture, hcapture, if_neg (by simp)]
    dsimp only
    rw [sink?_of_idle hcapture]
    exact .idle rfl (by simp [Task.isStart])
  | some capture =>
    rw [finishCapture_of_active hcapture, sink?_of_active hcapture, movesIn_finish]
    exact .finished rfl (Sink.answers_flush capture.sink)

/-- What any task can do to the capture of a session. -/
theorem Task.tenured (task : Task) (s : Session) : Tenured task s (task.run s) := by
  cases hcapture : task.onCapture with
  | false => exact (Task.aside hcapture s).tenured hcapture
  | true =>
    cases task with
    | startCapture sink snaplen clock => exact tenured_startCapture rfl (by simp) snaplen clock s
    | startCaptureFile path clock => exact tenured_startCaptureFile path clock s
    | recordEvents => exact tenured_recordEvents s
    | finishCapture => exact tenured_finishCapture s
    | _ => exact Bool.noConfusion hcapture

/-! ## One task -/

theorem Task.isStart_of_destination {task : Task} {sink : Sink}
    (h : task.destination? = some sink) : task.isStart := by
  cases task <;> simp_all [isStart, destination?]

namespace Tenure

variable {task : Task} {result : Except Error Unit} {moves : List Move} {sink : Sink}
  {before behind : Option Sink}

/-- A sink is in place behind a task that does not finish, if one was there or the task started
one. -/
theorem isSome_iff (h : Tenure task result before moves behind) :
    behind.isSome ↔
      task ≠ .finishCapture ∧ (before.isSome ∨ task.isStart ∧ result = .ok ()) := by
  cases h with
  | idle hnone hresult =>
    have hfailed : task.isStart → result ≠ .ok () := by
      intro hstart
      obtain ⟨e, he⟩ := hresult hstart
      simp [he]
    simpa using fun _ => hfailed
  | failed hsink hanswers hresult => simp [hresult]
  | started hsink hanswers hresult =>
    have hstart := Task.isStart_of_destination hsink
    have hgoing : task ≠ .finishCapture := by
      rintro rfl
      exact Bool.noConfusion hstart
    simp [hstart, hgoing, hresult]
  | kept hgoing => simp [hgoing]
  | finished hfinish => simp [hfinish]

/-- A sink in place answers the moves of a task that does not finish, and stays. -/
theorem answers_of_some (h : Tenure task result (some sink) moves behind)
    (hgoing : task ≠ .finishCapture) :
    ∃ sink', behind = some sink' ∧ sink.Answers moves sink' := by
  cases h with
  | kept _ _ hanswers => exact ⟨_, rfl, hanswers⟩
  | finished hfinish => exact absurd hfinish hgoing

/-- The moves of a start are answered by the sink that it brings. -/
theorem answers_of_destination (h : Tenure task result none moves behind)
    (hsink : task.destination? = some sink) : ∃ sink', sink.Answers moves sink' := by
  cases h with
  | idle hnone => simp [hnone] at hsink
  | failed hsink' hanswers =>
    obtain rfl := Option.some.inj (hsink'.symm.trans hsink)
    exact ⟨_, hanswers⟩
  | started hsink' hanswers =>
    obtain rfl := Option.some.inj (hsink'.symm.trans hsink)
    exact ⟨_, hanswers⟩

/-- A start that succeeds finds no capture and leaves one. -/
theorem of_start (h : Tenure task result before moves behind) (hstart : task.isStart)
    (hok : result = .ok ()) :
    ∃ sink sink', task.destination? = some sink ∧ behind = some sink' ∧
      sink.Answers moves sink' := by
  cases h with
  | idle _ hresult =>
    obtain ⟨e, he⟩ := hresult hstart
    exact absurd (hok.symm.trans he) (by simp)
  | failed _ _ hresult => exact absurd (hok.symm.trans hresult) (by simp)
  | started hsink hanswers => exact ⟨_, _, hsink, rfl, hanswers⟩
  | kept _ hresult =>
    obtain ⟨e, he⟩ := hresult hstart
    exact absurd (hok.symm.trans he) (by simp)
  | finished hfinish =>
    rw [hfinish] at hstart
    exact Bool.noConfusion hstart

end Tenure

/-- Without a capture only a start has to do with one. -/
theorem Task.aside_of_idle {s : Session} (hidle : s.capture = none) {task : Task}
    (hstart : task.isStart = false) : Aside s (task.run s).state (task.run s).trace := by
  cases hcapture : task.onCapture with
  | false => exact Task.aside hcapture s
  | true =>
    cases task with
    | recordEvents =>
      rw [run, Session.recordEvents, hidle]
      exact ⟨rfl, by simp⟩
    | finishCapture =>
      rw [run, Session.finishCapture, hidle]
      exact ⟨rfl, by simp⟩
    | startCapture => exact Bool.noConfusion hstart
    | startCaptureFile => exact Bool.noConfusion hstart
    | _ => exact Bool.noConfusion hcapture

/-- A start works on the control connection only. -/
theorem Task.asked_of_isStart {task : Task} (h : task.isStart) (s : Session) :
    Asked s (task.run s).state (task.run s).trace := by
  cases task with
  | startCapture sink snaplen clock => exact asked_startCapture sink snaplen clock s
  | startCaptureFile path clock => exact asked_startCaptureFile path clock s
  | _ => exact Bool.noConfusion h

/-- What the operations on captures do to a session. -/
structure CaptureLaws (s : Session) : Prop where
  /-- A second capture is refused before anything is sent. -/
  refused : s.capture.isSome → ∀ sink snaplen clock, startCapture sink snaplen clock s =
    ⟨s, sink.release.map .sink, .error .captureAlreadyInitialized⟩
  refused_file : s.capture.isSome → ∀ path clock, startCaptureFile path clock s =
    ⟨s, [], .error .captureAlreadyInitialized⟩
  /-- A snapshot length that leaves no room is refused before anything is sent. -/
  short : s.capture = none → ∀ sink snaplen clock, snaplen.toNat ≤ Frame.headerLength →
    startCapture sink snaplen clock s = ⟨s, sink.release.map .sink,
      .error (.capture (.snaplenTooSmall snaplen Frame.headerLength))⟩
  /-- A start that fails for whatever reason leaves no capture, and the event connection and its
  filter as they were. -/
  failed : s.capture = none → ∀ task : Task, task.isStart → ∀ e,
    (task.run s).result = .error e →
    (task.run s).state.capture = none ∧ (task.run s).state.filter = s.filter ∧
      (task.run s).state.event = s.event
  /-- A start makes its moves on the destination that it brings along. -/
  given : s.capture = none → ∀ (task : Task) sink, task.destination? = some sink →
    ∃ sink', sink.Answers (movesIn (task.run s).trace) sink'
  /-- Without a capture nothing but a start has to do with a destination. -/
  unused : s.capture = none → ∀ task : Task, task.isStart = false →
    Aside s (task.run s).state (task.run s).trace
  absent : s.capture = none →
    recordEvents s = ⟨s, [], .error .captureNotInitialized⟩ ∧
      finishCapture s = ⟨s, [], .error .captureNotInitialized⟩
  /-- A recording never ends the capture. -/
  kept : s.capture.isSome → (recordEvents s).state.capture.isSome
  /-- Finishing ends the capture, whatever becomes of its last flush. -/
  finished : ∀ capture, s.capture = some capture → finishCapture s =
    ⟨{ s with capture := none }, capture.finish.1.map .sink, capture.finish.2⟩

theorem isSome_sink? (s : Session) : s.sink?.isSome = s.capture.isSome := Option.isSome_map

/-- The laws of captures hold at every session, since every task keeps to its tenure. -/
theorem captureLaws (s : Session) : CaptureLaws s where
  refused := startCapture_of_active
  refused_file hactive path clock := by rw [startCaptureFile, if_pos hactive]
  short hidle sink snaplen clock hshort := startCapture_of_short hidle hshort sink clock
  failed hidle task hstart e herror := by
    have hasked := task.asked_of_isStart hstart s
    have hnone := (task.tenured s).isSome_iff
    rw [isSome_sink?, isSome_sink?, hidle, herror] at hnone
    exact ⟨by simpa using hnone, hasked.filter, hasked.event⟩
  given hidle task sink hsink := by
    have htenured := task.tenured s
    rw [Tenured, sink?_of_idle hidle] at htenured
    exact htenured.answers_of_destination hsink
  unused hidle task hstart := Task.aside_of_idle hidle hstart
  absent hidle := by
    rw [recordEvents, finishCapture, hidle]
    exact ⟨rfl, rfl⟩
  kept hactive := by
    have hsome := (tenured_recordEvents s).isSome_iff
    rw [isSome_sink?, isSome_sink?] at hsome
    exact hsome.mpr ⟨by simp, Or.inl hactive⟩
  finished _ := finishCapture_of_active

/-! ## Any run -/

/-- Whether a start succeeded in a run and its capture was not finished since. -/
def Underway (tasks : List Task) (s : Session) : Prop :=
  ∃ before start after, tasks = before ++ start :: after ∧ start.isStart ∧
    (start.run (afterAll before s)).result = .ok () ∧ .finishCapture ∉ after

/-- A capture is under way behind tasks if the first started it and none behind finished it, or if
it is under way behind the rest. -/
theorem underway_cons (task : Task) (rest : List Task) (s : Session) :
    Underway (task :: rest) s ↔
      (task.isStart ∧ (task.run s).result = .ok ()) ∧ .finishCapture ∉ rest ∨
        Underway rest (task.run s).state := by
  constructor
  · rintro ⟨before, start, after, hsplit, hstart, hok, hgoing⟩
    cases before with
    | nil =>
      obtain ⟨rfl, rfl⟩ := List.cons.inj hsplit
      exact Or.inl ⟨⟨hstart, hok⟩, hgoing⟩
    | cons first before =>
      obtain ⟨rfl, rfl⟩ := List.cons.inj hsplit
      exact Or.inr ⟨before, start, after, rfl, hstart, hok, hgoing⟩
  · rintro (⟨⟨hstart, hok⟩, hgoing⟩ | ⟨before, start, after, rfl, hstart, hok, hgoing⟩)
    · exact ⟨[], task, rest, rfl, hstart, hok, hgoing⟩
    · exact ⟨task :: before, start, after, rfl, hstart, hok, hgoing⟩

/-- The induction is on the run from its first task, so the session may already have a capture. -/
theorem isSome_capture_afterAll (tasks : List Task) (s : Session) :
    (afterAll tasks s).capture.isSome ↔
      s.capture.isSome ∧ .finishCapture ∉ tasks ∨ Underway tasks s := by
  induction tasks generalizing s with
  | nil => simp [afterAll, Underway]
  | cons task rest ih =>
    have hstep := (task.tenured s).isSome_iff
    rw [isSome_sink?, isSome_sink?] at hstep
    have hstart : task.isStart → task ≠ .finishCapture := by
      rintro h rfl
      exact Bool.noConfusion h
    have hmem : .finishCapture ∉ task :: rest ↔ task ≠ .finishCapture ∧ .finishCapture ∉ rest := by
      rw [List.mem_cons, not_or, ne_comm]
    rw [afterAll, ih, hstep, underway_cons, hmem]
    constructor
    · rintro (⟨⟨hgoing, hactive | hstarted⟩, hrest⟩ | hlater)
      · exact Or.inl ⟨hactive, hgoing, hrest⟩
      · exact Or.inr (Or.inl ⟨hstarted, hrest⟩)
      · exact Or.inr (Or.inr hlater)
    · rintro (⟨hactive, hgoing, hrest⟩ | ⟨hstarted, hrest⟩ | hlater)
      · exact Or.inl ⟨⟨hgoing, Or.inl hactive⟩, hrest⟩
      · exact Or.inl ⟨⟨hstart hstarted.1, Or.inr hstarted⟩, hrest⟩
      · exact Or.inr hlater

/-- As long as a capture goes on, all moves are made on its own destination. -/
theorem answers_traceAll {tasks : List Task} {s : Session} {sink : Sink}
    (hactive : s.sink? = some sink) (hgoing : .finishCapture ∉ tasks) :
    ∃ sink', (afterAll tasks s).sink? = some sink' ∧
      sink.Answers (movesIn (traceAll tasks s)) sink' := by
  induction tasks generalizing s sink with
  | nil => exact ⟨sink, hactive, .nil sink⟩
  | cons task rest ih =>
    have hnot : Task.finishCapture ≠ task ∧ .finishCapture ∉ rest := by
      simpa using hgoing
    have htenured := task.tenured s
    rw [Tenured, hactive] at htenured
    obtain ⟨sink', hactive', hanswers⟩ := htenured.answers_of_some hnot.1.symm
    obtain ⟨sink'', hlater, hanswers'⟩ := ih hactive' hnot.2
    refine ⟨sink'', hlater, ?_⟩
    rw [traceAll, movesIn_append]
    exact hanswers.append hanswers'

/-- As long as no capture is started, no destination is touched. -/
theorem aside_traceAll {tasks : List Task} {s : Session} (hidle : s.capture = none)
    (hstart : ∀ task ∈ tasks, task.isStart = false) :
    Aside s (afterAll tasks s) (traceAll tasks s) := by
  induction tasks generalizing s with
  | nil => exact ⟨rfl, by simp [traceAll]⟩
  | cons task rest ih =>
    have hfirst := Task.aside_of_idle hidle (hstart task List.mem_cons_self)
    have hrest := ih (hfirst.capture.trans hidle) fun task' htask' =>
      hstart task' (List.mem_cons_of_mem task htask')
    exact hfirst.trans hrest

/-- A session has no capture when it is opened. -/
theorem idle_of_assemble {groups : List String} {event control : Opening Call Connection}
    {s : Session} (hopen : (assemble groups event control).result = .ok s) : s.capture = none := by
  obtain ⟨c, c', -, -, -, rfl⟩ := assemble_ok hopen
  rfl

theorem capture_finishCapture (s : Session) : (finishCapture s).state.capture = none := by
  have hsome := (tenured_finishCapture s).isSome_iff
  rw [isSome_sink?] at hsome
  simpa using hsome

/-- Whatever a session was asked to do since it was opened, and whichever calls failed: it has a
capture exactly when a start succeeded and the capture was not finished since. The moves of a
capture are then made on the destination that its start brought along, and on no other; behind its
end no destination is touched before the next start. -/
theorem capturing_afterAll {groups : List String} {event control : Opening Call Connection}
    {s : Session} (hopen : (assemble groups event control).result = .ok s) (tasks : List Task) :
    ((afterAll tasks s).capture.isSome ↔ Underway tasks s) ∧
    CaptureLaws (afterAll tasks s) ∧
    (∀ before start after, tasks = before ++ start :: after → start.isStart →
      (start.run (afterAll before s)).result = .ok () → .finishCapture ∉ after →
      ∃ sink capture, start.destination? = some sink ∧
        (afterAll tasks s).capture = some capture ∧
        sink.Answers (movesIn (traceAll (start :: after) (afterAll before s))) capture.sink) ∧
    ∀ before after, tasks = before ++ .finishCapture :: after →
      (∀ task ∈ after, task.isStart = false) →
      ∀ effect ∈ traceAll after (afterAll (before ++ [.finishCapture]) s),
        effect.sinkCall? = none := by
  refine ⟨?_, captureLaws _, ?_, ?_⟩
  · have hsome := isSome_capture_afterAll tasks s
    rw [idle_of_assemble hopen] at hsome
    simpa using hsome
  · intro before start after hsplit hstart hok hgoing
    obtain ⟨sink, sink', hsink, hstarted, hanswers⟩ :=
      (start.tenured (afterAll before s)).of_start hstart hok
    obtain ⟨sink'', hlater, hanswers'⟩ := answers_traceAll hstarted hgoing
    have hrun : afterAll tasks s = afterAll after (start.run (afterAll before s)).state := by
      rw [hsplit, afterAll_append]
      rfl
    rw [← hrun] at hlater
    obtain ⟨capture, hcapture, rfl⟩ := Option.map_eq_some_iff.mp hlater
    refine ⟨sink, capture, hsink, hcapture, ?_⟩
    rw [traceAll, movesIn_append]
    exact hanswers.append hanswers'
  · intro before after _ hstart
    have hended : (afterAll (before ++ [.finishCapture]) s).capture = none := by
      rw [afterAll_append]
      exact capture_finishCapture (afterAll before s)
    exact (aside_traceAll hended hstart).calls

/-- A start is refused for its snapshot length, the next one succeeds, and another is refused. The
capture survives a recording that fails, and it ends with a flush that fails. -/
theorem capturing_afterAll_of_failures :
    let flaky : Sink := .observer
      { flushFaults := fun n => if 0 < n then some (.io .writerFull) else none }
    let start (sink : Sink) (snaplen : UInt32) : Task :=
      .startCapture sink snaplen fun _ => ⟨0, 0⟩
    let tasks : List Task := [.recordEvents, start (.observer {}) 16,
      .arrive .control [.datagram (replyEnd 1)], start flaky 17, start (.observer {}) 64,
      .arrive .event [.datagram [1]], .recordEvents, .finishCapture, start (.observer {}) 64]
    let results (s : Session) := (List.range 9).map fun n =>
      (tasks[n]?.map fun task => (task.run (afterAll (tasks.take n) s)).result.toOption.isSome)
    let captures (s : Session) := (List.range 10).map fun n =>
      (afterAll (tasks.take n) s).capture.isSome
    ∃ s, (assemble (groupNames true true) (Connection.accept samplingPeer)
        (Connection.accept samplingPeer)).result = .ok s ∧
      results s = [false, false, true, true, false, true, false, false, false].map some ∧
      captures s = [false, false, false, false, true, true, true, true, false, false] ∧
      Underway (tasks.take 7) s ∧ ¬ Underway tasks s ∧ CaptureLaws (afterAll (tasks.take 7) s) := by
  intro flaky start tasks results captures
  have hlaws {s : Session} (hopen : (assemble (groupNames true true)
      (Connection.accept samplingPeer) (Connection.accept samplingPeer)).result = .ok s)
      (tasks : List Task) := capturing_afterAll hopen tasks
  refine ⟨_, rfl, by decide +kernel, by decide +kernel, ?_, ?_, ?_⟩
  · exact (hlaws rfl (tasks.take 7)).1.mp (by decide +kernel)
  · exact fun h => absurd ((hlaws rfl tasks).1.mpr h) (by decide +kernel)
  · exact (hlaws rfl (tasks.take 7)).2.1

end Session
end SampleTap
