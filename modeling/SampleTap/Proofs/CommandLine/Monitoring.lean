import SampleTap.Proofs.CommandLine.Watching
import SampleTap.Proofs.Report
import SampleTap.Proofs.Session.Closing
import SampleTap.Proofs.Session.Leftovers

/-!
# Monitoring

The program without a request for the groups or a capture prints events. Over an event connection
whose arrivals can all be read, with pauses anywhere, its output is the lines of the wanted events
in order, up to the count, and at any point of the run the first few of them
(`run_prints_wanted_events`). With the last line that counts the program stops looking: what is left
is to take the filter out of force and to close the connections.
-/

namespace SampleTap

/-! ## Binding and closing -/

namespace Socket

/-- A filter in force is detached when the kernel lets the call through. -/
theorem result_detach {s : Socket} (hrule : s.filterRule ≠ .invalidDescriptor)
    (hfilter : s.filter.isSome) (hfault : s.faults s.made .detach = none) :
    (detach s).result = .ok () := by
  simp [detach, call, hrule, hfault, hfilter, Ran.after]

end Socket

namespace CommandLine

open Session (Looked closings detaching groupReply replyEnd sampleGroupName)

/-- A session behind a restriction to a group, if one is given. -/
def bound (group : Option UInt32) (s : Session) : Session :=
  match group with
  | none => s
  | some g => { s.withSocket { s.event.socket with
      made := s.event.socket.made + 1, filter := some (GroupFilter.mk g).program } with
    filter := some ⟨g⟩ }

/-- The calls that restrict a session without a filter. -/
def binding (group : Option UInt32) : List Effect :=
  (group.map fun g => .call .event (.attached (GroupFilter.mk g).program)).toList

/-- The calls that end a session. -/
def ending (group : Option UInt32) : List Effect :=
  (if group.isSome then [.call .event .detached] else []) ++ closings

/-- A new session is restricted in one call, and its filter can be taken out of force later. -/
theorem bind_of_ok {group : Option UInt32} {s : Session} (hfresh : s.filter = none)
    (h : (bind group s).result = .ok ()) :
    bind group s = ⟨bound group s, binding group, .ok ()⟩ ∧ (bound group s).Detachable := by
  cases group with
  | none => exact ⟨rfl, fun hsome => by simp [bound, hfresh] at hsome⟩
  | some g =>
    have hbind : bind (some g) s = (Session.attachGroup g s).after [] := by
      have hdetach := Session.detachGroup_of_none hfresh
      have hbound := Session.bindGroup_of_detachGroup_ok (by rw [hdetach]) g
      rw [hdetach] at hbound
      exact hbound
    have hattachGroup := Session.attachGroup_eq g s
    rw [hbind, hattachGroup] at h
    cases hresult : (Socket.attach (GroupFilter.mk g).program s.event.socket).result with
    | error e => simp [hresult, Ran.after] at h
    | ok _ =>
      have hrule : s.event.socket.filterRule ≠ .invalidDescriptor :=
        Socket.filterRule_of_attach_ok hresult
      rw [hbind, hattachGroup, Socket.attach_ok hresult]
      exact ⟨rfl, fun _ => hrule⟩

/-- Without a capture the end of a session is that of its filter and its connections. -/
theorem close_of_idle {s : Session} (h : s.Detachable) (hcapture : s.capture = none) :
    s.close.trace = detaching s ++ closings ∧ s.close.result = s.detachResult := by
  have hflushing : s.flushing = [] := by rw [Session.flushing, hcapture]
  have hflush : s.flushResult = .ok () := by rw [Session.flushResult, hcapture]
  rw [Session.close_of_detachable h, hflushing, hflush, List.append_nil]
  refine ⟨rfl, ?_⟩
  cases s.detachResult <;> rfl

/-- Looks change nothing that the end of a session depends on. -/
theorem close_of_looked {group : Option UInt32} {s s' : Session} {trace : List Effect}
    (hcapture : s.capture = none) (hfresh : s.filter = none) (h : (bound group s).Detachable)
    (hlooked : Looked (bound group s) s' trace) :
    Work.close s' = ⟨(ending group).map .session, s'.detachResult⟩ ∧
      ((∀ n, s.event.socket.faults n .detach = none) → s'.detachResult = .ok ()) := by
  obtain ⟨mode, made, queue, ready, rfl⟩ := hlooked.frame
  obtain ⟨htrace, hresult⟩ := close_of_idle (s := (bound group s).withSocket
    { (bound group s).event.socket with mode, made, queue, ready }) h (by cases group <;> exact
      hcapture)
  rw [Work.close, htrace, hresult]
  cases group with
  | none =>
    have hnone : (bound none s).filter = none := hfresh
    simp [detaching, Session.detachResult, Session.withSocket, ending, hnone]
  | some g =>
    refine ⟨rfl, fun hfaults => ?_⟩
    exact Socket.result_detach (h rfl) rfl (hfaults made)

/-! ## What is written -/

/-- The text that is printed is that of the lines, in order. -/
theorem printedText_eq (trace : List Activity) :
    printedText trace = (trace.filterMap Activity.line?).flatMap Bytes.ofText := by
  induction trace with
  | nil => rfl
  | cons activity rest ih =>
    cases activity with
    | session effect =>
      show [] ++ printedText rest = _
      rw [ih, List.filterMap_cons_none rfl, List.nil_append]
    | printed text =>
      have hline : Activity.line? (.printed text) = some text := rfl
      show Bytes.ofText text ++ printedText rest = _
      rw [ih, List.filterMap_cons_some hline, List.flatMap_cons]

/-- At any point of the work the first few lines were printed. -/
theorem printedText_of_prefix {before trace : List Activity} (h : before <+: trace) :
    ∃ k, printedText before =
      ((trace.filterMap Activity.line?).take k).flatMap Bytes.ofText := by
  have hlines := h.filterMap Activity.line?
  refine ⟨(before.filterMap Activity.line?).length, ?_⟩
  rw [printedText_eq, ← List.prefix_iff_eq_take.mp hlines]

/-- Without calls of a sink nothing is captured. -/
theorem captured_of_quiet {trace : List Activity}
    (h : ∀ effect ∈ trace.filterMap Activity.effect?, effect.sinkCall? = none) :
    captured trace = [] := by
  rw [captured, List.flatMap_eq_nil_iff]
  intro activity hactivity
  cases activity with
  | printed text => rfl
  | session effect =>
    have hquiet := h effect (List.mem_filterMap.mpr ⟨_, hactivity, rfl⟩)
    cases effect with
    | call side call => rfl
    | sink call => simp [Effect.sinkCall?] at hquiet

theorem trace_ofWork (w : Work) : (Outcome.ofWork w).trace = w.trace := by
  unfold Outcome.ofWork
  cases w.result <;> rfl

/-- Without a capture the output is what was printed. -/
theorem output_ofWork {w : Work}
    (h : ∀ effect ∈ w.trace.filterMap Activity.effect?, effect.sinkCall? = none) :
    (Outcome.ofWork w).output = printedText w.trace := by
  unfold Outcome.ofWork
  rw [captured_of_quiet h, ite_self, List.append_nil]
  cases w.result <;> rfl

/-! ## The whole run -/

/-- How the program opens the session whose events it prints. -/
def opening (env : Surroundings) (options : Options) : Opening Effect Session :=
  ({ configGroup := options.monitor } : Session.Plan).assemble env.event env.control

/-- The connection whose events are printed is refused what its peer was going to refuse. -/
theorem faults_opening {env : Surroundings} {options : Options} {s : Session}
    (h : (opening env options).result = .ok s) : s.event.socket.faults = env.event.faults := by
  obtain ⟨c, -, hconnected, -, -, rfl⟩ := Session.assemble_ok h
  have hfaults : c.socket.faults = env.event.faults := Connection.faults_of_openSocket_ok hconnected
  obtain ⟨made, hjoined⟩ := Session.exists_frame_joinAll (Session.groupNames options.monitor true) c
  show (Session.joinAll (Session.groupNames options.monitor true) c).state.socket.faults = _
  rw [hjoined]
  exact hfaults

/-- What is done before the first look. -/
def setup (env : Surroundings) (options : Options) : List Effect :=
  (opening env options).trace ++ binding options.group ++ [.call .event (.switched .nonBlocking)]

/-- Opening a session does nothing with a sink. -/
theorem quiet_assemble (groups : List String) (event control : Opening Call Connection) :
    ∀ effect ∈ (Session.assemble groups event control).trace, effect.sinkCall? = none := by
  have hsteps := Session.opensInSteps_assemble groups event control
  generalize (Session.assemble groups event control).trace = trace at hsteps ⊢
  generalize (Session.assemble groups event control).result = result at hsteps
  have hclosed : ∀ effect ∈ [Effect.call .event .closed], effect.sinkCall? = none := by
    simp [Effect.sinkCall?]
  cases hsteps with
  | event => exact Session.sinkCall?_calls .event _
  | join => exact List.forall_mem_append.mpr ⟨Session.sinkCall?_calls .event _, hclosed⟩
  | control =>
    refine List.forall_mem_append.mpr ⟨List.forall_mem_append.mpr ⟨?_, ?_⟩, hclosed⟩
    · exact Session.sinkCall?_calls .event _
    · exact Session.sinkCall?_calls .control _
  | opened =>
    exact List.forall_mem_append.mpr
      ⟨Session.sinkCall?_calls .event _, Session.sinkCall?_calls .control _⟩

theorem quiet_setup (env : Surroundings) (options : Options) :
    ∀ effect ∈ setup env options, effect.sinkCall? = none := by
  refine List.forall_mem_append.mpr ⟨List.forall_mem_append.mpr ⟨quiet_assemble _ _ _, ?_⟩, ?_⟩
  · cases options.group <;> simp [binding, Effect.sinkCall?]
  · simp [Effect.sinkCall?]

theorem quiet_ending (group : Option UInt32) :
    ∀ effect ∈ ending group, effect.sinkCall? = none := by
  cases group <;> simp [ending, closings, Effect.sinkCall?]

theorem quiet_of_isLook {effect : Effect} (h : effect.isLook = true) : effect.sinkCall? = none := by
  cases effect with
  | call side call => rfl
  | sink call => simp [Effect.isLook] at h

/-- What a run does with a session that was opened: it restricts the session, switches modes, prints
the wanted lines with looks between them, and ends the session. -/
theorem monitor_eq {env : Surroundings} {options : Options} {s : Session}
    (hopen : (opening env options).result = .ok s) (hbind : (bind options.group s).result = .ok ())
    (hswitches : ∀ n, env.event.faults n .setMode = none)
    (hqueue : s.Readable s.event.socket.queue) (format : Report.Format) :
    let lines := upTo options.count 0
      (wantedLines env options format (s.recordsOf s.event.socket.queue))
    ∃ activities result, monitor env options format =
        ⟨(setup env options).map .session ++ activities ++ (ending options.group).map .session,
          result⟩ ∧
      activities.filterMap Activity.line? = lines ∧
      (∀ effect ∈ activities.filterMap Activity.effect?, effect.isLook = true) ∧
      (Reached options.count lines.length →
        activities.getLast? = lines.getLast?.map .printed) ∧
      ((∀ n, env.event.faults n .detach = none) → result = .ok ()) := by
  intro lines
  rw [← faults_opening hopen] at hswitches ⊢
  have hnew : s.filter = none ∧ s.capture = none := by
    obtain ⟨c, c', -, -, -, rfl⟩ := Session.assemble_ok hopen
    exact ⟨rfl, rfl⟩
  obtain ⟨hbound, hdetachable⟩ := bind_of_ok hnew.1 hbind
  -- The restriction leaves the queue and the failures to come as they are.
  have hsame : (bound options.group s).event.socket.queue = s.event.socket.queue ∧
      (bound options.group s).event.socket.faults = s.event.socket.faults ∧
      (bound options.group s).ReadsLike s := by
    cases options.group <;> exact ⟨rfl, rfl, rfl, rfl⟩
  obtain ⟨hsameQueue, hsameFaults, halike⟩ := hsame
  have hboundQueue : (bound options.group s).Readable (bound options.group s).event.socket.queue :=
    fun arrival harrival => by
      rw [halike.endsLook]
      exact hqueue arrival (hsameQueue ▸ harrival)
  obtain ⟨hok, htrace, hstarted, hsupplied, hcoming⟩ :=
    Stream.supplied_start hboundQueue (hsameFaults ▸ hswitches)
  rw [hsameQueue, halike.recordsOf] at hcoming
  obtain ⟨activities, s', hwatch, hwatched, hlast⟩ := watch_prints env options format 0 hsupplied
  rw [hcoming] at hwatched hlast
  obtain ⟨hclose, hresult⟩ :=
    close_of_looked hnew.2 hnew.1 hdetachable (hstarted.trans hwatched.looked)
  refine ⟨activities, s'.detachResult, ?_, hwatched.lines, hwatched.looked.effects, ?_, hresult⟩
  · have hopened : (({ configGroup := options.monitor } : Session.Plan).assemble env.event
        env.control).result = .ok s := hopen
    simp [monitor, Work.opened, hopened, Work.proceed, hbound, hok, htrace, hwatch, hclose,
      Work.after, setup, opening]
  · intro hreached
    refine hlast ?_
    rw [Nat.zero_add]
    exact hreached

/-- The program prints the wanted events in the order in which they arrived, each on a line, up to
the count; what was printed at any point are the first few of these lines. When the count is
reached, nothing is done behind the last line but the end of the session. -/
theorem run_prints_wanted_events {env : Surroundings} {arguments : List String} {options : Options}
    {s : Session} (hread : Options.read arguments = .ok options)
    (hlist : options.listGroups = false) (hwrite : options.write = none)
    (hopen : (opening env options).result = .ok s) (hbind : (bind options.group s).result = .ok ())
    (hswitches : ∀ n, env.event.faults n .setMode = none)
    (hqueue : s.Readable s.event.socket.queue) :
    let o := run env arguments
    let format : Report.Format := if options.json then .json else .text
    let wanted := wantedLines env options format (s.recordsOf s.event.socket.queue)
    let lines := upTo options.count 0 wanted
    o.output = lines.flatMap Bytes.ofText ∧
      (∀ before, before <+: o.trace →
        ∃ k, printedText before = (lines.take k).flatMap Bytes.ofText) ∧
      (options.count = none → lines = wanted) ∧
      (∀ n, options.count = some n → lines = wanted.take n) ∧
      ((format = .text → Report.NamesUnbroken env.interfaces) →
        ∀ line ∈ lines, Report.IsLine line) ∧
      (∃ activities, o.trace = (setup env options).map .session ++ activities ++
          (ending options.group).map .session ∧
        activities.filterMap Activity.line? = lines ∧
        (∀ effect ∈ activities.filterMap Activity.effect?, effect.isLook = true) ∧
        (Reached options.count lines.length →
          activities.getLast? = lines.getLast?.map .printed)) ∧
      ((∀ n, env.event.faults n .detach = none) → o.status = 0) := by
  intro o format wanted lines
  obtain ⟨activities, result, hmonitor, hlines, hlooks, hlast, hresult⟩ :=
    monitor_eq hopen hbind hswitches hqueue format
  have hrun : o = .ofWork (monitor env options format) := by
    simp [o, run, hread, perform, hlist, hwrite, format]
  have htrace : o.trace = (setup env options).map .session ++ activities ++
      (ending options.group).map .session := by
    rw [hrun, trace_ofWork, hmonitor]
  have hall : o.trace.filterMap Activity.line? = lines := by
    rw [htrace, List.filterMap_append, List.filterMap_append, lines_sessions, lines_sessions,
      hlines, List.nil_append, List.append_nil]
  have hquiet : ∀ effect ∈ o.trace.filterMap Activity.effect?, effect.sinkCall? = none := by
    rw [htrace, List.filterMap_append, List.filterMap_append, effects_sessions, effects_sessions,
      List.forall_mem_append, List.forall_mem_append]
    exact ⟨⟨quiet_setup env options, fun effect h => quiet_of_isLook (hlooks effect h)⟩,
      quiet_ending options.group⟩
  refine ⟨?_, fun before hbefore => ?_, ?_, ?_, fun hnames line hline => ?_,
    ⟨activities, htrace, hlines, hlooks, hlast⟩, fun hfaults => ?_⟩
  · rw [hrun, trace_ofWork] at hquiet
    rw [← hall, hrun, output_ofWork hquiet, printedText_eq, trace_ofWork]
  · rw [← hall]
    exact printedText_of_prefix hbefore
  · intro hcount
    simp [lines, hcount, upTo]
  · intro n hcount
    simp [lines, hcount, upTo]
  · obtain ⟨record, -, rfl⟩ := List.mem_map.mp (mem_of_mem_upTo hline)
    exact Report.isLine_eventLine hnames record
  · rw [hrun, hmonitor, hresult hfaults]
    rfl

/-- The controller's description of a family numbered 29 with a multicast group for samples, to the
request numbered 1. -/
def samplingReply : Bytes :=
  let start : MessageBuilder := { type := Controller.family, flags := 0, seq := 1 }
  let (message, groups) := ((start.appendCommand { command := 1, version := 2 }).attrU16
    Family.idAttr 29).openNest Family.groupsAttr
  let (message, entry) := message.openNest 1
  let message := (message.attrText Family.groupNameAttr sampleGroupName).attrU32
    Family.groupIdAttr 10
  ((message.closeNest entry).closeNest groups).finish

/-- Two samples in one datagram, a pause, a change that is not asked for, and one sample more than
the count. -/
theorem run_prints_wanted_events_past_config :
    let event : Socket := { queue := [.datagram samplingReply, .datagram (replyEnd 1),
      .datagram (notification 7 ++ notification 8), .pause, .datagram (groupReply 0 5),
      .datagram (notification 9), .datagram (notification 10)] }
    let control : Socket := { queue := [.datagram samplingReply, .datagram (replyEnd 1)] }
    let env : Surroundings := ⟨event, control, fun _ => none, fun _ => ⟨0, 0⟩⟩
    let arguments := ["--count", "3", "--group", "7"]
    let options : Options := { count := some 3, group := some 7 }
    Options.read arguments = .ok options ∧
      ∃ s, (opening env options).result = .ok s ∧ (bind options.group s).result = .ok () ∧
        (∀ n, env.event.faults n .setMode = none) ∧ s.Readable s.event.socket.queue ∧
        (run env arguments).output = ["sample group 7 len 0\n", "sample group 8 len 0\n",
          "sample group 9 len 0\n"].flatMap Bytes.ofText ∧
        (run env arguments).status = 0 := by
  intro event control env arguments options
  have hread : Options.read arguments = .ok options := by decide +kernel
  let s : Session := (opening env options).result.toOption.get (by decide +kernel)
  have hopen : (opening env options).result = .ok s := ok_of_toOption (Option.some_get _).symm
  have hbind : (bind options.group s).result = .ok () := ok_of_toOption (by decide +kernel)
  have hswitches : ∀ n, env.event.faults n .setMode = none := fun _ => rfl
  have hqueue : s.Readable s.event.socket.queue := by decide +kernel
  obtain ⟨houtput, -, -, -, -, -, hstatus⟩ :=
    run_prints_wanted_events hread rfl rfl hopen hbind hswitches hqueue
  exact ⟨hread, s, hopen, hbind, hswitches, hqueue, houtput.trans (by decide +kernel),
    hstatus fun _ => rfl⟩

end CommandLine
end SampleTap
