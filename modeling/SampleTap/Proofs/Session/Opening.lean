import SampleTap.Proofs.Action
import SampleTap.Session

/-!
# Opening a session

A session is opened in steps: the event connection, its multicast groups in order, the control
connection. It is a session when each of them succeeds (`assemble_ok`). Otherwise the first step
that fails is the last one that is taken, its error is reported, and the event connection is closed
if there is one (`opensInSteps_assemble`).
-/

namespace SampleTap
namespace Session

variable {groups : List String} {event control : Opening Call Connection}

/-! ## Multicast groups -/

theorem joinAll_cons_of_ok {name : String} (rest : List String) {c : Connection}
    (h : (Connection.joinGroup name c).result = .ok ()) :
    joinAll (name :: rest) c =
      (joinAll rest (Connection.joinGroup name c).state).after
        (Connection.joinGroup name c).trace := by
  rw [joinAll]
  exact Action.bind_of_ok (by rw [← h])

/-- The first group that cannot be joined ends the joining. -/
theorem joinAll_cons_of_error {name : String} (rest : List String) {c : Connection} {e : Error}
    (h : (Connection.joinGroup name c).result = .error e) :
    joinAll (name :: rest) c = ⟨(Connection.joinGroup name c).state,
      (Connection.joinGroup name c).trace, .error e⟩ := by
  rw [joinAll]
  exact Action.bind_of_error (by rw [← h])

/-- The first group that cannot be joined is the last one that is asked for. -/
theorem joinAll_error {c : Connection} {e : Error} (h : (joinAll groups c).result = .error e) :
    ∃ before name after, groups = before ++ name :: after ∧
      (joinAll before c).result = .ok () ∧
      let failed := Connection.joinGroup name (joinAll before c).state
      failed.result = .error e ∧
        (joinAll groups c).trace = (joinAll before c).trace ++ failed.trace := by
  induction groups generalizing c with
  | nil => simp [joinAll, Action.pure] at h
  | cons first rest ih =>
    cases hfirst : (Connection.joinGroup first c).result with
    | error e' =>
      rw [joinAll_cons_of_error rest hfirst] at h ⊢
      obtain rfl := Except.error.inj h
      exact ⟨[], first, rest, rfl, rfl, hfirst, rfl⟩
    | ok _ =>
      rw [joinAll_cons_of_ok rest hfirst] at h ⊢
      obtain ⟨before, name, after, rfl, hbefore, hfailed, htrace⟩ := ih h
      refine ⟨first :: before, name, after, rfl, ?_⟩
      rw [joinAll_cons_of_ok before hfirst]
      refine ⟨hbefore, hfailed, ?_⟩
      simp only [Ran.after, htrace, List.append_assoc]

/-- Joining a group changes nothing of a connection but the count of its calls. -/
theorem exists_frame_joinGroup (name : String) (c : Connection) :
    ∃ made, (Connection.joinGroup name c).state = { c with socket := { c.socket with made } } := by
  unfold Connection.joinGroup
  cases c.family.group? name with
  | none => exact ⟨c.socket.made, rfl⟩
  | some group =>
    simp only [Connection.onSocket, Action.on, Socket.joinGroup, Socket.call]
    cases c.socket.faults c.socket.made .joinGroup <;> exact ⟨c.socket.made + 1, rfl⟩

/-- Joining multicast groups changes nothing of a connection but the number of its calls. -/
theorem exists_frame_joinAll (groups : List String) (c : Connection) :
    ∃ made, (joinAll groups c).state = { c with socket := { c.socket with made } } := by
  induction groups generalizing c with
  | nil => exact ⟨c.socket.made, rfl⟩
  | cons first rest ih =>
    obtain ⟨made, hstate⟩ := exists_frame_joinGroup first c
    cases hfirst : (Connection.joinGroup first c).result with
    | error e =>
      rw [joinAll_cons_of_error rest hfirst]
      exact ⟨made, hstate⟩
    | ok _ =>
      rw [joinAll_cons_of_ok rest hfirst, hstate]
      exact ih { c with socket := { c.socket with made } }

theorem trace_joinGroup (name : String) (c : Connection) :
    ∀ call ∈ (Connection.joinGroup name c).trace, ∃ group, call = .joined group := by
  unfold Connection.joinGroup
  cases c.family.group? name with
  | none => simp
  | some group =>
    simp only [Connection.onSocket, Action.on, Socket.joinGroup, Socket.call]
    cases c.socket.faults c.socket.made .joinGroup <;> simp [Ran.after, Pure.pure, Action.pure]

theorem trace_joinAll (groups : List String) (c : Connection) :
    ∀ call ∈ (joinAll groups c).trace, ∃ group, call = .joined group := by
  induction groups generalizing c with
  | nil => simp [joinAll, Action.pure]
  | cons first rest ih =>
    cases hfirst : (Connection.joinGroup first c).result with
    | error e =>
      rw [joinAll_cons_of_error rest hfirst]
      exact trace_joinGroup first c
    | ok _ =>
      rw [joinAll_cons_of_ok rest hfirst]
      intro call hcall
      exact (List.mem_append.mp hcall).elim (trace_joinGroup first c call) (ih _ call)

/-! ## All steps -/

/-- The ways in which opening a session can go, with what is done and what comes of it. -/
inductive OpensInSteps (groups : List String) (event control : Opening Call Connection) :
    List Effect → Except Error Session → Prop
  | event {e : Error} (hevent : event.result = .error e) :
      OpensInSteps groups event control (event.trace.map (.call .event)) (.error e)
  | join {c : Connection} {before : List String} {name : String} {after : List String} {e : Error}
      (hevent : event.result = .ok c) (hgroups : groups = before ++ name :: after)
      (hbefore : (joinAll before c).result = .ok ())
      (hjoin : (Connection.joinGroup name (joinAll before c).state).result = .error e) :
      OpensInSteps groups event control
        ((event.trace ++ ((joinAll before c).trace ++
            (Connection.joinGroup name (joinAll before c).state).trace)).map (.call .event) ++
          [.call .event .closed])
        (.error e)
  | control {c : Connection} {e : Error} (hevent : event.result = .ok c)
      (hjoined : (joinAll groups c).result = .ok ()) (hcontrol : control.result = .error e) :
      OpensInSteps groups event control
        ((event.trace ++ (joinAll groups c).trace).map (.call .event) ++
          control.trace.map (.call .control) ++ [.call .event .closed])
        (.error e)
  | opened {c c' : Connection} (hevent : event.result = .ok c)
      (hjoined : (joinAll groups c).result = .ok ()) (hcontrol : control.result = .ok c') :
      OpensInSteps groups event control
        ((event.trace ++ (joinAll groups c).trace).map (.call .event) ++
          control.trace.map (.call .control))
        (.ok { event := (joinAll groups c).state, control := c' })

/-- A session is opened step by step, and the step that fails releases what the steps before it
opened. -/
theorem opensInSteps_assemble (groups : List String) (event control : Opening Call Connection) :
    OpensInSteps groups event control (assemble groups event control).trace
      (assemble groups event control).result := by
  unfold assemble
  cases hevent : event.result with
  | error e => exact .event hevent
  | ok c =>
    dsimp only
    cases hjoined : (joinAll groups c).result with
    | error e =>
      obtain ⟨before, name, after, hgroups, hbefore, hjoin, htrace⟩ := joinAll_error hjoined
      dsimp only
      rw [htrace]
      exact .join hevent hgroups hbefore hjoin
    | ok _ =>
      dsimp only
      cases hcontrol : control.result with
      | error e => exact .control hevent hjoined hcontrol
      | ok c' => exact .opened hevent hjoined hcontrol

theorem count_calls (side side' : Side) (calls : List Call) (call : Call) :
    (calls.map (Effect.call side)).count (.call side' call) =
      if side = side' then calls.count call else 0 := by
  induction calls with
  | nil => simp
  | cons first rest ih =>
    rw [List.map_cons, List.count_cons, List.count_cons, ih]
    by_cases hside : side = side'
    · simp [hside]
    · simp [hside]

theorem count_closed_of_joined {calls : List Call}
    (h : ∀ call ∈ calls, ∃ group, call = .joined group) : calls.count .closed = 0 := by
  rw [List.count_eq_zero]
  intro hclosed
  obtain ⟨group, hgroup⟩ := h .closed hclosed
  simp at hgroup

/-- Opening a session closes only the event connection, and only when a later step fails. What the
attempts to open a connection close themselves is not counted. -/
theorem count_closed_assemble (groups : List String) (event control : Opening Call Connection) :
    let opened := assemble groups event control
    (∀ e, opened.result = .error e → opened.trace.count (.call .event .closed) =
      event.trace.count .closed + event.result.toOption.isSome.toNat) ∧
    ∀ s, opened.result = .ok s →
      opened.trace.count (.call .event .closed) = event.trace.count .closed ∧
        opened.trace.count (.call .control .closed) = control.trace.count .closed := by
  intro opened
  have hsteps : OpensInSteps groups event control opened.trace opened.result :=
    opensInSteps_assemble groups event control
  have hjoins (groups : List String) (c : Connection) :=
    count_closed_of_joined (trace_joinAll groups c)
  generalize opened.trace = trace at hsteps ⊢
  refine ⟨fun e herror => ?_, fun s hok => ?_⟩
  · rw [herror] at hsteps
    cases hsteps with
    | event hevent => simp [count_calls, hevent, Except.toOption]
    | @join c before name _ _ hevent =>
      have hjoin := count_closed_of_joined (trace_joinGroup name (joinAll before c).state)
      simp [count_calls, hevent, Except.toOption, hjoins, hjoin]
    | control hevent => simp [count_calls, hevent, Except.toOption, hjoins]
  · rw [hok] at hsteps
    cases hsteps with
    | opened => simp [count_calls, hjoins]

/-- A session that was opened has the two connections that were, and nothing else. -/
theorem assemble_ok {s : Session} (h : (assemble groups event control).result = .ok s) :
    ∃ c c', event.result = .ok c ∧ (joinAll groups c).result = .ok () ∧ control.result = .ok c' ∧
      s = { event := (joinAll groups c).state, control := c' } := by
  have hsteps := opensInSteps_assemble groups event control
  rw [h] at hsteps
  generalize (assemble groups event control).trace = trace at hsteps
  cases hsteps with
  | opened hevent hjoined hcontrol => exact ⟨_, _, hevent, hjoined, hcontrol, rfl⟩

end Session
end SampleTap
