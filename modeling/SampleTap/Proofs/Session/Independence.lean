import SampleTap.Proofs.Session.Capturing

/-!
# The two connections of a session

What is done on the event connection and what is done on the control connection do not meet. Work on
one side neither reads nor changes what belongs to the other (`OnEventSide`, `OnControlSide`), so it
gives the same and leaves the same behind whichever is done first (`independent_of_sides`).

* `notifications_independent_of_requests`: dispatching and listing the groups are such work, and
  neither changes the filter or the capture.
* `run_by_sides`: in a run of such tasks each side does what it would do alone, however they take
  turns.
-/

namespace SampleTap

variable {σ τ α β γ : Type}

/-- The connection that an effect belongs to. -/
def Effect.side? : Effect → Option Side
  | call side _ => some side
  | sink _ => none

theorem Effect.side?_calls (side : Side) (calls : List Call) :
    ∀ effect ∈ calls.map (Effect.call side), effect.side? = some side := by
  intro effect heffect
  obtain ⟨call, -, rfl⟩ := List.mem_map.mp heffect
  rfl

namespace Session

/-! ## Sides -/

/-- Work on the event connection: it neither reads nor changes the control connection or the
capture. -/
structure OnEventSide (act : Act α) : Prop where
  frame : ∀ (s : Session) (control : Connection) (capture : Option Capture),
    act { s with control, capture } =
      ⟨{ (act s).state with control, capture }, (act s).trace, (act s).result⟩
  effects : ∀ s, ∀ effect ∈ (act s).trace, effect.side? = some .event

/-- Work on the control connection: it neither reads nor changes the event connection, the filter
or the capture. -/
structure OnControlSide (act : Act α) : Prop where
  frame : ∀ (s : Session) (event : Connection) (filter : Option GroupFilter)
    (capture : Option Capture),
    act { s with event, filter, capture } =
      ⟨{ (act s).state with event, filter, capture }, (act s).trace, (act s).result⟩
  effects : ∀ s, ∀ effect ∈ (act s).trace, effect.side? = some .control

/-- On the event side only the event connection and the record of the filter change. -/
theorem OnEventSide.state {act : Act α} (h : OnEventSide act) (s : Session) :
    (act s).state = { s with event := (act s).state.event, filter := (act s).state.filter } :=
  congrArg Ran.state (h.frame s s.control s.capture)

/-- On the control side only the control connection changes. -/
theorem OnControlSide.state {act : Act α} (h : OnControlSide act) (s : Session) :
    (act s).state = { s with control := (act s).state.control } :=
  congrArg Ran.state (h.frame s s.event s.filter s.capture)

/-- Work on the other side changes nothing for what comes behind it. -/
theorem OnEventSide.after {act : Act α} {other : Act β} (h : OnEventSide act)
    (hother : OnControlSide other) (s : Session) :
    act (other s).state =
      ⟨{ (act s).state with control := (other s).state.control }, (act s).trace,
        (act s).result⟩ := by
  rw [hother.state s, h.frame s (other s).state.control s.capture, h.state s]

theorem OnControlSide.after {act : Act α} {other : Act β} (h : OnControlSide act)
    (hother : OnEventSide other) (s : Session) :
    act (other s).state =
      ⟨{ (other s).state with control := (act s).state.control }, (act s).trace,
        (act s).result⟩ := by
  rw [hother.state s, h.frame s (other s).state.event (other s).state.filter s.capture]

/-- Two actions of which either gives the same before and behind the other, and which leave the
same session in both orders. -/
structure Independent (act : Act α) (other : Act β) : Prop where
  state : ∀ s, (other (act s).state).state = (act (other s).state).state
  left : ∀ s, (act (other s).state).trace = (act s).trace ∧
    (act (other s).state).result = (act s).result
  right : ∀ s, (other (act s).state).trace = (other s).trace ∧
    (other (act s).state).result = (other s).result

/-- Work on different sides is independent. -/
theorem independent_of_sides {listen : Act α} {ask : Act β} (hlisten : OnEventSide listen)
    (hask : OnControlSide ask) : Independent listen ask where
  state s := by rw [hask.after hlisten, hlisten.after hask]
  left s := by rw [hlisten.after hask]; exact ⟨rfl, rfl⟩
  right s := by rw [hask.after hlisten]; exact ⟨rfl, rfl⟩

/-! ## Notifications and requests -/

/-- An operation whose visitor starts with `x`. It gives the visitor's state at the end, which can
be a record of everything that the visitor was shown, and the result, be it an error or not. -/
def serving (act : Action Effect (Session × σ) α) (x : σ) : Act (σ × Except Error α) := fun s =>
  let ran := act (s, x)
  ⟨ran.state.1, ran.trace, .ok (ran.state.2, ran.result)⟩

/-- Dispatching is work on the event side, whatever the handlers do. -/
theorem onEventSide_dispatch (mode : Mode) (handlers : Handlers σ β) (x : σ) :
    OnEventSide (serving (dispatch mode handlers) x) where
  frame _ _ _ := rfl
  effects _ := Effect.side?_calls .event _

theorem onControlSide_forEachGroup (visit : Visitor GroupDescriptor σ β) (x : σ) :
    OnControlSide (serving (forEachGroup visit) x) where
  frame _ _ _ _ := rfl
  effects _ := Effect.side?_calls .control _

theorem onControlSide_groups : OnControlSide groups where
  frame _ _ _ _ := rfl
  effects _ := Effect.side?_calls .control _

/-- The filter is on record and in force as before, and the capture is as before. -/
structure Undisturbed (s s' : Session) : Prop where
  filter : s'.filter = s.filter
  program : s'.event.socket.filter = s.event.socket.filter
  capture : s'.capture = s.capture

/-- Dispatching leaves the filter and the capture as they are. -/
theorem undisturbed_dispatch (mode : Mode) (handlers : Handlers σ β) (x : σ) (s : Session) :
    Undisturbed s (serving (dispatch mode handlers) x s).state where
  filter := (listened_dispatch mode handlers s x).filter
  program := (listened_dispatch mode handlers s x).program
  capture := (aside_dispatch mode handlers s x).capture

theorem OnControlSide.undisturbed {act : Act α} (h : OnControlSide act) (s : Session) :
    Undisturbed s (act s).state := by
  rw [h.state s]
  exact ⟨rfl, rfl, rfl⟩

/-- Notifications and requests do not disturb each other, whatever the visitors do, whatever is
queued on either connection and whichever calls fail. -/
theorem notifications_independent_of_requests (mode : Mode) (handlers : Handlers σ β)
    (visit : Visitor Event σ β) (x : σ) (visitGroup : Visitor GroupDescriptor τ γ) (y : τ) :
    (∀ listen ∈ [serving (dispatch mode handlers) x, serving (dispatchEvents mode visit) x],
      Independent listen (serving (forEachGroup visitGroup) y) ∧ Independent listen groups ∧
      ∀ s, Undisturbed s (listen s).state) ∧
    ∀ s, Undisturbed s (serving (forEachGroup visitGroup) y s).state ∧
      Undisturbed s (groups s).state := by
  have hask := onControlSide_forEachGroup visitGroup y
  have hdispatch (h : Handlers σ β) :
      Independent (serving (dispatch mode h) x) (serving (forEachGroup visitGroup) y) ∧
      Independent (serving (dispatch mode h) x) groups ∧
      ∀ s, Undisturbed s (serving (dispatch mode h) x s).state :=
    ⟨independent_of_sides (onEventSide_dispatch mode h x) hask,
      independent_of_sides (onEventSide_dispatch mode h x) onControlSide_groups,
      undisturbed_dispatch mode h x⟩
  refine ⟨?_, fun s => ⟨hask.undisturbed s, onControlSide_groups.undisturbed s⟩⟩
  rw [dispatchEvents_eq_dispatch, List.forall_mem_cons, List.forall_mem_singleton]
  exact ⟨hdispatch handlers, hdispatch (.ofEvents visit)⟩

/-! ## Tasks of one side -/

/-- Two pieces of work on the event side in a row are one. An error of the first ends both. -/
theorem OnEventSide.bind {act : Act α} {next : α → Act β} (h : OnEventSide act)
    (hnext : ∀ a, OnEventSide (next a)) : OnEventSide (act >>= next) where
  frame s control capture := by
    simp only [Bind.bind, Action.bind, h.frame s control capture]
    cases (act s).result with
    | error e => rfl
    | ok a => simp only [(hnext a).frame (act s).state control capture, Ran.after]
  effects s effect heffect := by
    simp only [Bind.bind, Action.bind] at heffect
    cases hresult : (act s).result with
    | error e =>
      rw [hresult] at heffect
      exact h.effects s effect heffect
    | ok a =>
      rw [hresult] at heffect
      rcases List.mem_append.mp heffect with hfirst | hnext'
      · exact h.effects s effect hfirst
      · exact (hnext a).effects _ effect hnext'

theorem onEventSide_detachGroup : OnEventSide detachGroup where
  frame s control capture := by
    rcases Option.eq_none_or_eq_some s.filter with hfilter | ⟨f, hfilter⟩
    · rw [detachGroup_of_none hfilter,
        detachGroup_of_none (s := { s with control, capture }) hfilter]
    · rw [detachGroup_of_some hfilter,
        detachGroup_of_some (s := { s with control, capture }) hfilter]
      cases (Socket.detach s.event.socket).result with
      | error e => rfl
      | ok _ => rfl
  effects s := by
    rcases Option.eq_none_or_eq_some s.filter with hfilter | ⟨f, hfilter⟩
    · rw [detachGroup_of_none hfilter]
      simp
    · rw [detachGroup_of_some hfilter]
      cases (Socket.detach s.event.socket).result with
      | error e => exact Effect.side?_calls .event _
      | ok _ => exact Effect.side?_calls .event _

theorem onEventSide_attachGroup (group : UInt32) : OnEventSide (attachGroup group) where
  frame s control capture := by
    rw [attachGroup_eq, attachGroup_eq]
    cases (Socket.attach (GroupFilter.mk group).program s.event.socket).result with
    | error e => rfl
    | ok _ => rfl
  effects s := by
    rw [attachGroup_eq]
    cases (Socket.attach (GroupFilter.mk group).program s.event.socket).result with
    | error e => exact Effect.side?_calls .event _
    | ok _ => exact Effect.side?_calls .event _

/-- Changing the filter is work on the event side: it is put on the event connection only. -/
theorem onEventSide_bindGroup (group : UInt32) : OnEventSide (bindGroup group) := by
  rw [bindGroup_eq]
  exact onEventSide_detachGroup.bind fun _ => onEventSide_attachGroup group

namespace Task

/-- The side on which a task works. What has to do with a capture works on neither alone. -/
def side? : Task → Option Side
  | arrive side _ => some side
  | multicast _ => some .event
  | bind _ => some .event
  | setMode _ => some .event
  | dispatch _ _ _ => some .event
  | dispatchEvents _ _ _ => some .event
  | forEachGroup _ _ => some .control
  | groups => some .control
  | _ => none

/-- A task of the event side works there only. -/
theorem onEventSide {task : Task} (h : task.side? = some .event) : OnEventSide task.run := by
  cases task with
  | arrive side items =>
    obtain rfl : side = .event := Option.some.inj h
    exact ⟨fun _ _ _ => rfl, fun _ => by simp [run, Action.modify]⟩
  | multicast data => exact ⟨fun _ _ _ => rfl, fun _ => by simp [run, Action.modify]⟩
  | bind group => exact onEventSide_bindGroup group
  | setMode mode => exact ⟨fun _ _ _ => rfl, fun _ => Effect.side?_calls .event _⟩
  | dispatch mode handlers x => exact ⟨fun _ _ _ => rfl, fun _ => Effect.side?_calls .event _⟩
  | dispatchEvents mode visit x => exact ⟨fun _ _ _ => rfl, fun _ => Effect.side?_calls .event _⟩
  | _ => simp [side?] at h

theorem onControlSide {task : Task} (h : task.side? = some .control) : OnControlSide task.run := by
  cases task with
  | arrive side items =>
    obtain rfl : side = .control := Option.some.inj h
    exact ⟨fun _ _ _ _ => rfl, fun _ => by simp [run, Action.modify]⟩
  | forEachGroup visit x =>
    exact ⟨fun _ _ _ _ => rfl, fun _ => Effect.side?_calls .control _⟩
  | groups => exact ⟨fun _ _ _ _ => rfl, fun _ => Effect.side?_calls .control _⟩
  | _ => simp [side?] at h

end Task

/-! ## Runs -/

/-- A run of tasks as one action. -/
def runAll (tasks : List Task) : Act Unit := fun s => ⟨afterAll tasks s, traceAll tasks s, .ok ()⟩

theorem runAll_cons (task : Task) (rest : List Task) (s : Session) :
    runAll (task :: rest) s = (runAll rest (task.run s).state).after (task.run s).trace := rfl

/-- A run of tasks of the event side is work on that side. -/
theorem onEventSide_runAll {tasks : List Task} (h : ∀ task ∈ tasks, task.side? = some .event) :
    OnEventSide (runAll tasks) := by
  induction tasks with
  | nil => exact ⟨fun _ _ _ => rfl, by simp [runAll, traceAll]⟩
  | cons task rest ih =>
    obtain ⟨htask, hrest⟩ := List.forall_mem_cons.mp h
    have htask := Task.onEventSide htask
    refine ⟨fun s control capture => ?_, fun s effect heffect => ?_⟩
    · rw [runAll_cons, runAll_cons, htask.frame s, (ih hrest).frame (task.run s).state]
      rfl
    · rcases List.mem_append.mp heffect with hhere | hlater
      · exact htask.effects s effect hhere
      · exact (ih hrest).effects _ effect hlater

theorem onControlSide_runAll {tasks : List Task}
    (h : ∀ task ∈ tasks, task.side? = some .control) : OnControlSide (runAll tasks) := by
  induction tasks with
  | nil => exact ⟨fun _ _ _ _ => rfl, by simp [runAll, traceAll]⟩
  | cons task rest ih =>
    obtain ⟨htask, hrest⟩ := List.forall_mem_cons.mp h
    have htask := Task.onControlSide htask
    refine ⟨fun s event filter capture => ?_, fun s effect heffect => ?_⟩
    · rw [runAll_cons, runAll_cons, htask.frame s, (ih hrest).frame (task.run s).state]
      rfl
    · rcases List.mem_append.mp heffect with hhere | hlater
      · exact htask.effects s effect hhere
      · exact (ih hrest).effects _ effect hlater

/-- The tasks of one side. -/
def tasksOn (side : Side) (tasks : List Task) : List Task :=
  tasks.filter fun task => task.side? = some side

/-- What is done on one side. -/
def effectsOn (side : Side) (trace : List Effect) : List Effect :=
  trace.filter fun effect => effect.side? = some side

theorem side?_of_mem_tasksOn (side : Side) (tasks : List Task) :
    ∀ task ∈ tasksOn side tasks, task.side? = some side := by
  intro task htask
  exact of_decide_eq_true (List.mem_filter.mp htask).2

/-- The first task is among those of its own side only. -/
theorem tasksOn_cons {task : Task} {side : Side} (h : task.side? = some side) (other : Side)
    (rest : List Task) : tasksOn other (task :: rest) =
      if side = other then task :: tasksOn other rest else tasksOn other rest := by
  simp [tasksOn, List.filter_cons, h]

/-- What is done on one side is seen from that side, in front of what comes later. -/
theorem effectsOn_append {trace : List Effect} {side : Side}
    (h : ∀ effect ∈ trace, effect.side? = some side) (other : Side) (later : List Effect) :
    effectsOn other (trace ++ later) =
      if side = other then trace ++ effectsOn other later else effectsOn other later := by
  have hhere : effectsOn other trace = if side = other then trace else [] := by
    split_ifs with heq
    · refine List.filter_eq_self.mpr fun effect heffect => ?_
      simp [h effect heffect, heq]
    · refine List.filter_eq_nil_iff.mpr fun effect heffect => ?_
      simp [h effect heffect, heq]
  rw [effectsOn, List.filter_append, ← effectsOn, ← effectsOn, hhere]
  split_ifs <;> rfl

/-- In a run of tasks that each work on one side, a side ends as if its tasks had been alone, and
has done what they would have done alone. -/
theorem run_by_sides {tasks : List Task} (h : ∀ task ∈ tasks, task.side?.isSome) (s : Session) :
    afterAll tasks s = { afterAll (tasksOn .event tasks) s with
        control := (afterAll (tasksOn .control tasks) s).control } ∧
      ∀ side, effectsOn side (traceAll tasks s) = traceAll (tasksOn side tasks) s := by
  induction tasks generalizing s with
  | nil => exact ⟨rfl, fun _ => rfl⟩
  | cons task rest ih =>
    obtain ⟨htask, hrest⟩ := List.forall_mem_cons.mp h
    obtain ⟨side, hside⟩ := Option.isSome_iff_exists.mp htask
    obtain ⟨hstate, htrace⟩ := ih hrest (task.run s).state
    have heffects : ∀ effect ∈ (task.run s).trace, effect.side? = some side := by
      cases side with
      | event => exact (Task.onEventSide hside).effects s
      | control => exact (Task.onControlSide hside).effects s
    simp only [afterAll, traceAll, hstate, htrace, tasksOn_cons hside, effectsOn_append heffects]
    -- The tasks of the other side do not notice this one.
    cases side with
    | event =>
      have hasked := onControlSide_runAll (side?_of_mem_tasksOn .control rest)
      have hother := hasked.after (Task.onEventSide hside) s
      have hcontrol := congrArg (·.state.control) hother
      have hquiet := congrArg Ran.trace hother
      simp only [runAll] at hcontrol hquiet
      refine ⟨?_, fun other => ?_⟩
      · simp [afterAll, hcontrol]
      · cases other with
        | event => simp [traceAll]
        | control => simp [hquiet]
    | control =>
      have hheard := onEventSide_runAll (side?_of_mem_tasksOn .event rest)
      have hother := hheard.after (Task.onControlSide hside) s
      have hevent := congrArg Ran.state hother
      have hquiet := congrArg Ran.trace hother
      simp only [runAll] at hevent hquiet
      refine ⟨?_, fun other => ?_⟩
      · simp [afterAll, hevent]
      · cases other with
        | event => simp [hquiet]
        | control => simp [traceAll]

/-- How the tasks of the two sides take turns does not matter. -/
theorem run_congr {tasks tasks' : List Task} (h : ∀ task ∈ tasks, task.side?.isSome)
    (h' : ∀ task ∈ tasks', task.side?.isSome)
    (hsame : ∀ side, tasksOn side tasks = tasksOn side tasks') (s : Session) :
    afterAll tasks s = afterAll tasks' s ∧
      ∀ side, effectsOn side (traceAll tasks s) = effectsOn side (traceAll tasks' s) := by
  obtain ⟨hstate, htrace⟩ := run_by_sides h s
  obtain ⟨hstate', htrace'⟩ := run_by_sides h' s
  rw [hstate, hstate', hsame, hsame]
  exact ⟨rfl, fun side => by rw [htrace, htrace', hsame]⟩

end Session

end SampleTap
