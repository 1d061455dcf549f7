import SampleTap.Proofs.Session.Binding
import SampleTap.Proofs.Session.Opening
import SampleTap.Proofs.Session.Tasks

/-!
# The record of the filter

A session remembers the filter that it put in force. Whatever it was asked to do and whichever calls
failed, the record agrees with the event connection (`accurate_afterAll`): there is a filter on
record exactly when its program is in force, and it is that of the last binding that succeeded.

`Booked` is what carries a run: only a binding touches the record or the program in force, and it
leaves them in agreement however it ends (`Booked.bindGroup`).
-/

namespace SampleTap

/-! ## Programs of filters -/

namespace GroupFilter

/-- Each group has its own program. -/
theorem asLoaded_inj {g g' : UInt32} : asLoaded g = asLoaded g' ↔ g = g' := by
  have hword : Bytes.word32? (Bytes.ofWord32 g) = some g := by
    simpa using Bytes.word32?_ofWord32_append g []
  rw [asLoaded, loaded_eq_asLoaded_iff (Bytes.length_ofWord32 g), hword, Option.some.injEq]

/-- The program of a filter tells its group. -/
theorem program_inj {f f' : GroupFilter} : f.program = f'.program ↔ f = f' := by
  constructor
  · intro h
    have hgroup : asLoaded f.group = asLoaded f'.group := by
      simpa [program] using h
    cases f
    cases f'
    exact congrArg GroupFilter.mk (asLoaded_inj.mp hgroup)
  · rintro rfl
    rfl

end GroupFilter

/-! ## Calls that fail -/

namespace Socket

/-- A filter that cannot be put in force leaves the one before in force. -/
theorem filter_attach_of_error {program : Bpf.Program} {s : Socket} {e : Error}
    (h : (attach program s).result = .error e) : (attach program s).state.filter = s.filter := by
  unfold attach at h ⊢
  split_ifs at h ⊢
  · rfl
  · rfl
  · unfold call at h ⊢
    cases hfault : s.faults s.made .attach with
    | some errno => rfl
    | none => simp [hfault, Action.modify, Ran.after] at h

/-- A filter that cannot be taken out of force stays. -/
theorem filter_detach_of_error {s : Socket} {e : Error} (h : (detach s).result = .error e) :
    (detach s).state.filter = s.filter := by
  unfold detach at h ⊢
  split_ifs at h ⊢
  · rfl
  · unfold call at h ⊢
    cases hfault : s.faults s.made .detach with
    | some errno => rfl
    | none =>
      simp only [hfault, Ran.after] at h ⊢
      split_ifs at h ⊢
      · rfl

/-- Putting a filter in force makes no other call. -/
theorem trace_attach (program : Bpf.Program) (s : Socket) :
    ∀ c ∈ (attach program s).trace, c = .attached program := by
  unfold attach
  split_ifs
  · simp
  · simp
  · unfold call
    cases s.faults s.made .attach <;> simp [Action.modify, Ran.after]

/-- Taking a filter out of force is at most one call. -/
theorem trace_detach (s : Socket) :
    (detach s).trace = [] ∨ (detach s).trace = [.detached] := by
  unfold detach
  split_ifs
  · exact Or.inl rfl
  · unfold call
    cases s.faults s.made .detach with
    | some errno => exact Or.inr rfl
    | none =>
      simp only [Ran.after]
      split_ifs <;> exact Or.inr rfl

end Socket

namespace Session

/-! ## Bindings -/

theorem bindGroup_eq (g : UInt32) : bindGroup g = detachGroup >>= fun _ => attachGroup g := by
  have hquiet : (Action.modify (afterMulticast []) : Act Unit) = pure () := rfl
  rw [← bindGroupAmid_nil, bindGroupAmid, hquiet]
  simp only [pure_bind]

theorem bindGroup_of_detachGroup_error {s : Session} {e : Error}
    (h : (detachGroup s).result = .error e) (g : UInt32) :
    bindGroup g s = ⟨(detachGroup s).state, (detachGroup s).trace, .error e⟩ := by
  rw [bindGroup_eq]
  exact Action.bind_of_error (by rw [← h])

/-- A binding attaches behind a detach that succeeds. -/
theorem bindGroup_of_detachGroup_ok {s : Session} (h : (detachGroup s).result = .ok ())
    (g : UInt32) :
    bindGroup g s = (attachGroup g (detachGroup s).state).after (detachGroup s).trace := by
  rw [bindGroup_eq]
  exact Action.bind_of_ok (by rw [← h])

/-! ## The record and the program in force -/

/-- Whether a session has the program of the filter on record in force. -/
def Agrees (s : Session) : Prop := s.event.socket.filter = s.filter.map GroupFilter.program

/-- The first half of a binding leaves no filter, or it fails and changes none. -/
theorem Agrees.detachGroup {s : Session} (h : Agrees s) :
    Agrees (detachGroup s).state ∧
      ((detachGroup s).result = .ok () ∧ (detachGroup s).state.filter = none ∨
        (∃ e, (detachGroup s).result = .error e) ∧ (detachGroup s).state.filter = s.filter) := by
  cases hfilter : s.filter with
  | none =>
    rw [detachGroup_of_none hfilter]
    exact ⟨h, Or.inl ⟨rfl, hfilter⟩⟩
  | some f =>
    rw [detachGroup_of_some hfilter]
    cases hresult : (Socket.detach s.event.socket).result with
    | error e =>
      refine ⟨?_, Or.inr ⟨⟨e, rfl⟩, hfilter⟩⟩
      exact (Socket.filter_detach_of_error hresult).trans h
    | ok _ =>
      refine ⟨?_, Or.inl ⟨rfl, rfl⟩⟩
      show (Socket.detach s.event.socket).state.filter = none
      rw [Socket.detach_ok hresult]

/-- The second half puts the filter of the group on record, or it fails and there is none. -/
theorem Agrees.attachGroup {s : Session} (h : Agrees s) (hfilter : s.filter = none) (g : UInt32) :
    Agrees (attachGroup g s).state ∧
      ((attachGroup g s).result = .ok () ∧ (attachGroup g s).state.filter = some ⟨g⟩ ∨
        (∃ e, (attachGroup g s).result = .error e) ∧ (attachGroup g s).state.filter = none) := by
  rw [attachGroup_eq]
  cases hresult : (Socket.attach (GroupFilter.mk g).program s.event.socket).result with
  | error e =>
    refine ⟨?_, Or.inr ⟨⟨e, rfl⟩, hfilter⟩⟩
    exact (Socket.filter_attach_of_error hresult).trans h
  | ok _ =>
    refine ⟨?_, Or.inl ⟨rfl, rfl⟩⟩
    show (Socket.attach _ s.event.socket).state.filter = some (GroupFilter.mk g).program
    rw [Socket.attach_ok hresult]

/-! ## Keeping the books -/

/-- The group of the filter that a task puts in force. -/
def Task.bound? (s : Session) : Task → Option UInt32
  | bind group =>
    match (bindGroup group s).result with
    | .ok _ => some group
    | .error _ => none
  | _ => none

/-- The groups of the bindings that succeed in a run, in order. -/
def bounds : List Task → Session → List UInt32
  | [], _ => []
  | task :: rest, s => (task.bound? s).toList ++ bounds rest (task.run s).state

/-- The record agrees with the event connection, and it is that of the last binding that
succeeded. -/
structure Booked (last : Option UInt32) (s : Session) : Prop where
  agrees : Agrees s
  last : ∀ f, s.filter = some f → last = some f.group

/-- A binding keeps the books however it ends. -/
theorem Booked.bindGroup {last : Option UInt32} {s : Session} (h : Booked last s) (g : UInt32) :
    Booked (((Task.bind g).bound? s).or last) (bindGroup g s).state := by
  obtain ⟨hagrees, ⟨hok, hnone⟩ | ⟨⟨e, herror⟩, hkept⟩⟩ := h.agrees.detachGroup
  · obtain ⟨hagrees', ⟨hok', hnew⟩ | ⟨⟨e, herror'⟩, hnone'⟩⟩ := hagrees.attachGroup hnone g
    · have hrun := bindGroup_of_detachGroup_ok hok g
      have hbound : (Task.bind g).bound? s = some g := by
        simp [Task.bound?, hrun, Ran.after, hok']
      rw [hbound, hrun]
      refine ⟨hagrees', fun f hf => ?_⟩
      obtain rfl : (⟨g⟩ : GroupFilter) = f := Option.some.inj (hnew.symm.trans hf)
      rfl
    · rw [bindGroup_of_detachGroup_ok hok g]
      refine ⟨hagrees', fun f hf => ?_⟩
      exact absurd (hnone'.symm.trans hf) (by simp)
  · have hrun := bindGroup_of_detachGroup_error herror g
    have hbound : (Task.bind g).bound? s = none := by
      simp [Task.bound?, hrun]
    rw [hbound, hrun, Option.none_or]
    exact ⟨hagrees, fun f hf => h.last f (hkept.symm.trans hf)⟩

/-- A task that is not a binding touches neither the record nor the program in force. -/
theorem Task.keeps {task : Task} (hbind : ¬ ∃ group, task = .bind group) (s : Session) :
    (task.run s).state.filter = s.filter ∧
      (task.run s).state.event.socket.filter = s.event.socket.filter ∧
      ∀ effect ∈ (task.run s).trace, effect.isDetach = false := by
  rcases (task.kind s).resolve_left hbind with hlistened | hasked
  · refine ⟨hlistened.filter, hlistened.program, ?_⟩
    intro effect heffect
    exact (Effect.quiet_of_ofListening (hlistened.effects effect heffect)).2
  · refine ⟨hasked.filter, by rw [hasked.event], ?_⟩
    intro effect heffect
    exact Effect.isDetach_of_ofAsking (hasked.effects effect heffect)

/-- One task keeps the books. -/
theorem Booked.run {last : Option UInt32} {s : Session} (h : Booked last s) (task : Task) :
    Booked ((task.bound? s).or last) (task.run s).state := by
  by_cases hbind : ∃ group, task = .bind group
  · obtain ⟨group, rfl⟩ := hbind
    exact h.bindGroup group
  · obtain ⟨hfilter, hprogram, -⟩ := Task.keeps hbind s
    have hnone : task.bound? s = none := by
      cases task with
      | bind group => exact absurd ⟨group, rfl⟩ hbind
      | _ => rfl
    rw [hnone, Option.none_or]
    refine ⟨?_, fun f hf => h.last f (hfilter.symm.trans hf)⟩
    rw [Agrees, hfilter, hprogram]
    exact h.agrees

/-- Whatever a session is asked to do keeps the books. -/
theorem Booked.afterAll {last : Option UInt32} {s : Session} (h : Booked last s)
    (tasks : List Task) :
    Booked ((bounds tasks s).getLast?.or last) (afterAll tasks s) := by
  induction tasks generalizing last s with
  | nil => exact h
  | cons task rest ih =>
    have hrest := ih (h.run task)
    rw [← Option.or_assoc] at hrest
    have hlast : (bounds (task :: rest) s).getLast? =
        (bounds rest (task.run s).state).getLast?.or (task.bound? s) := by
      rw [bounds, List.getLast?_append]
      cases task.bound? s <;> rfl
    rw [hlast]
    exact hrest

/-! ## Detaching -/

/-- Whether a filter is taken out of force only as the first thing that is done, and only when there
is one. -/
def DetachesInForce (s : Session) (trace : List Effect) : Prop :=
  ∀ side before behind, trace = before ++ .call side .detached :: behind →
    side = .event ∧ before = [] ∧ s.event.socket.filter.isSome

/-- A detach of a filter in force may only come first, with none behind it. -/
theorem detachesInForce_append {s : Session} {first rest : List Effect}
    (hfirst : first = [] ∨ first = [.call .event .detached] ∧ s.event.socket.filter.isSome)
    (hrest : ∀ effect ∈ rest, effect.isDetach = false) : DetachesInForce s (first ++ rest) := by
  have hlater (side : Side) (before behind : List Effect) :
      rest ≠ before ++ .call side .detached :: behind := by
    rintro rfl
    simpa [Effect.isDetach] using hrest (.call side .detached) (by simp)
  intro side before behind hsplit
  rcases hfirst with rfl | ⟨rfl, hforce⟩
  · exact absurd hsplit (hlater side before behind)
  · cases before with
    | nil =>
      simp only [List.singleton_append, List.nil_append, List.cons.injEq, Effect.call.injEq,
        and_true] at hsplit
      exact ⟨hsplit.1.symm, rfl, hforce⟩
    | cons effect before =>
      simp only [List.cons_append, List.cons.injEq] at hsplit
      exact absurd hsplit.2 (hlater side before behind)

theorem Agrees.trace_detach {s : Session} (h : Agrees s) {f : GroupFilter}
    (hfilter : s.filter = some f) :
    (Socket.detach s.event.socket).trace.map (Effect.call .event) = [] ∨
      (Socket.detach s.event.socket).trace.map (Effect.call .event) = [.call .event .detached] ∧
        s.event.socket.filter.isSome := by
  have hforce : s.event.socket.filter.isSome := by
    rw [h, hfilter]
    rfl
  rcases Socket.trace_detach s.event.socket with hnone | hone
  · exact Or.inl (by rw [hnone]; rfl)
  · exact Or.inr ⟨by rw [hone]; rfl, hforce⟩

/-- A session that keeps its books detaches only a filter that is in force. -/
theorem Agrees.trace_detachGroup {s : Session} (h : Agrees s) :
    (Session.detachGroup s).trace = [] ∨
      (Session.detachGroup s).trace = [.call .event .detached] ∧ s.event.socket.filter.isSome := by
  cases hfilter : s.filter with
  | none =>
    rw [detachGroup_of_none hfilter]
    exact Or.inl rfl
  | some f =>
    have htrace : (Session.detachGroup s).trace =
        (Socket.detach s.event.socket).trace.map (.call .event) := by
      rw [detachGroup_of_some hfilter]
      cases (Socket.detach s.event.socket).result <;> rfl
    rw [htrace]
    exact h.trace_detach hfilter

theorem trace_attachGroup (g : UInt32) (s : Session) :
    ∀ effect ∈ (attachGroup g s).trace, effect.isDetach = false := by
  have htrace : (attachGroup g s).trace =
      (Socket.attach (GroupFilter.mk g).program s.event.socket).trace.map (.call .event) := by
    rw [attachGroup_eq]
    cases (Socket.attach (GroupFilter.mk g).program s.event.socket).result <;> rfl
  rw [htrace]
  intro effect heffect
  obtain ⟨call, hcall, rfl⟩ := List.mem_map.mp heffect
  rw [Socket.trace_attach _ _ call hcall]
  rfl

/-- No task takes a filter out of force when there is none. -/
theorem Agrees.detachesInForce_run {s : Session} (h : Agrees s) (task : Task) :
    DetachesInForce s (task.run s).trace := by
  by_cases hbind : ∃ group, task = .bind group
  · obtain ⟨group, rfl⟩ := hbind
    rcases hresult : (Session.detachGroup s).result with e | _
    · have hrun := bindGroup_of_detachGroup_error hresult group
      rw [Task.run, hrun, ← List.append_nil (Session.detachGroup s).trace]
      exact detachesInForce_append h.trace_detachGroup (by simp)
    · rw [Task.run, bindGroup_of_detachGroup_ok hresult group]
      exact detachesInForce_append h.trace_detachGroup (trace_attachGroup group _)
  · exact detachesInForce_append (Or.inl rfl) (Task.keeps hbind s).2.2

/-- Nor does the end of a session. -/
theorem Agrees.detachesInForce_drop {s : Session} (h : Agrees s) :
    DetachesInForce s (drop s).trace := by
  have hfirst : (releaseFilter s).trace = [] ∨
      (releaseFilter s).trace = [.call .event .detached] ∧ s.event.socket.filter.isSome := by
    unfold releaseFilter
    cases hfilter : s.filter with
    | none => exact Or.inl rfl
    | some f =>
      dsimp only
      rw [onEvent_eq]
      exact h.trace_detach hfilter
  have hcapture : ∀ effect ∈ (releaseCapture (releaseFilter s).state).trace,
      effect.isDetach = false := by
    unfold releaseCapture
    cases (releaseFilter s).state.capture with
    | none => simp
    | some capture => simp [Effect.isDetach]
  show DetachesInForce s ((releaseFilter s).trace ++
    (releaseCapture (releaseFilter s).state).trace ++
    [.call .event .closed, .call .control .closed])
  rw [List.append_assoc]
  refine detachesInForce_append hfirst fun effect heffect => ?_
  rcases List.mem_append.mp heffect with hflush | hclose
  · exact hcapture effect hflush
  · simp only [List.mem_cons, List.not_mem_nil, or_false] at hclose
    rcases hclose with rfl | rfl <;> rfl

/-! ## Any run -/

/-- What the record of the filter says about a session: which program is in force, and what becomes
of it when a binding fails. -/
structure Accurate (last : Option UInt32) (s : Session) : Prop where
  some_iff : ∀ f, s.filter = some f ↔ s.event.socket.filter = some f.program
  none_iff : s.filter = none ↔ s.event.socket.filter = none
  last : ∀ f, s.filter = some f → last = some f.group
  /-- When the old filter cannot be taken out of force it stays. -/
  detach_error : ∀ g f e, s.filter = some f → (Socket.detach s.event.socket).result = .error e →
    (Session.bindGroup g s).result = .error e ∧ (Session.bindGroup g s).state.filter = some f ∧
      (Session.bindGroup g s).state.event.socket.filter = some f.program
  /-- When the new one cannot be put in force there is none. -/
  attach_error : ∀ g e, (detachGroup s).result = .ok () →
    (Socket.attach (GroupFilter.mk g).program (detachGroup s).state.event.socket).result =
      .error e →
    (Session.bindGroup g s).result = .error e ∧ (Session.bindGroup g s).state.filter = none ∧
      (Session.bindGroup g s).state.event.socket.filter = none
  /-- A filter is taken out of force only when there is one. -/
  detach_run : ∀ task : Task, DetachesInForce s (task.run s).trace
  detach_drop : DetachesInForce s (drop s).trace
  detach_close : DetachesInForce s (close s).trace

/-- Books that are kept are accurate, also about what a failing binding would leave. -/
theorem Booked.accurate {last : Option UInt32} {s : Session} (h : Booked last s) :
    Accurate last s where
  some_iff f := by
    have hsome : (∃ f', s.filter = some f' ∧ f'.program = f.program) ↔ s.filter = some f := by
      simp [GroupFilter.program_inj]
    rw [h.agrees, Option.map_eq_some_iff, hsome]
  none_iff := by rw [h.agrees, Option.map_eq_none_iff]
  last := h.last
  detach_error g f e hfilter herror := by
    have hdetach := detachGroup_of_some hfilter
    simp only [herror] at hdetach
    rw [bindGroup_of_detachGroup_error (by rw [hdetach]) g, hdetach]
    have hprogram : s.event.socket.filter = some f.program := by
      rw [h.agrees, hfilter]
      rfl
    exact ⟨rfl, hfilter, (Socket.filter_detach_of_error herror).trans hprogram⟩
  attach_error g e hdetach herror := by
    have hattach := attachGroup_eq g (detachGroup s).state
    simp only [herror] at hattach
    obtain ⟨hagrees, ⟨-, hnone⟩ | ⟨⟨e', herror'⟩, -⟩⟩ := h.agrees.detachGroup
    · have hbare : (detachGroup s).state.event.socket.filter = none := by
        rw [hagrees, hnone]
        rfl
      rw [bindGroup_of_detachGroup_ok hdetach g, hattach]
      exact ⟨rfl, hnone, (Socket.filter_attach_of_error herror).trans hbare⟩
    · exact absurd (hdetach.symm.trans herror') (by simp)
  detach_run := h.agrees.detachesInForce_run
  detach_drop := h.agrees.detachesInForce_drop
  detach_close := by
    rw [close_eq]
    exact h.agrees.detachesInForce_drop

/-! ## Opening -/

/-- A session that was opened over a connection without a filter has none on record. -/
theorem booked_assemble {groups : List String} {event control : Opening Call Connection}
    {s : Session} (hopen : (assemble groups event control).result = .ok s)
    (hbare : ∀ c, event.result = .ok c → c.socket.filter = none) : Booked none s := by
  obtain ⟨c, c', hevent, -, -, rfl⟩ := assemble_ok hopen
  refine ⟨?_, fun f hf => by simp at hf⟩
  obtain ⟨made, hjoined⟩ := exists_frame_joinAll groups c
  rw [Agrees, hjoined]
  exact hbare c hevent

/-- Whatever a session was asked to do since it was opened, and whichever calls failed: its record
of the filter tells the program in force on its event connection, and the last binding that
succeeded. -/
theorem accurate_afterAll {groups : List String} {event control : Opening Call Connection}
    {s : Session} (hopen : (assemble groups event control).result = .ok s)
    (hbare : ∀ c, event.result = .ok c → c.socket.filter = none) (tasks : List Task) :
    Accurate (bounds tasks s).getLast? (afterAll tasks s) := by
  have hbooked := (booked_assemble hopen hbare).afterAll tasks
  rw [Option.or_none] at hbooked
  exact hbooked.accurate

/-- A session whose second binding cannot take the first filter out of force, and whose third cannot
put its own in force. -/
theorem accurate_afterAll_of_failures :
    let refused : Nat → Operation → Option Int := fun n op =>
      if op = .detach ∧ n = 4 then some 9 else if op = .attach ∧ n = 7 then some 12 else none
    let event := Connection.accept { samplingPeer with socket := { faults := refused } }
    let control := Connection.accept samplingPeer
    let tasks : List Task := [.bind 7, .multicast (notification 7), .bind 8,
      .dispatchEvents .nonBlocking Event.lookOn (), .bind 9]
    ∃ s, (assemble (groupNames true true) event control).result = .ok s ∧
      (∀ c, event.result = .ok c → c.socket.filter = none) ∧
      (afterAll (tasks.take 3) s).filter = some ⟨7⟩ ∧ (afterAll tasks s).filter = none ∧
      Accurate (bounds tasks s).getLast? (afterAll tasks s) := by
  intro refused event control tasks
  have hbare : ∀ c, event.result = .ok c → c.socket.filter = none := by
    intro c hc
    obtain rfl := Except.ok.inj hc
    rfl
  have haccurate {s : Session}
      (hopen : (assemble (groupNames true true) event control).result = .ok s) :=
    accurate_afterAll hopen hbare tasks
  exact ⟨_, rfl, hbare, by decide +kernel, by decide +kernel, haccurate rfl⟩

end Session
end SampleTap
