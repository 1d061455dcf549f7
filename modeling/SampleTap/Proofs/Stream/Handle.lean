import SampleTap.Proofs.Session.Closing
import SampleTap.Proofs.Stream

/-!
# Handles

A session is held as it is or by a stream, until its holder closes it, drops it, or fails to make a
stream of it. `Handle.Step` says what one use of a handle can come to: nothing that ends the
session, or all that its end takes. So both connections are closed once in any run, and whatever
else is due is done at one point of it (`released_once`).
-/

namespace SampleTap

/-- Who holds a session. -/
inductive Handle
  | session (s : Session)
  | stream (s : Stream)
  /-- The session has ended. -/
  | gone

namespace Handle

/-- The session that is held. -/
def session? : Handle → Option Session
  | session s => some s
  | stream s => some s.session
  | gone => none

/-- What can be done with a handle. -/
inductive Use : Type 1
  /-- The session does a task, also one that a stream holds. -/
  | task (work : Session.Task)
  /-- A stream is made of the session. -/
  | start
  | poll
  | intoSession
  | close
  | drop

/-- The run of an action on what a handle holds. -/
def ranOn {σ α : Type} (put : σ → Handle) (ran : Ran Effect σ α) : Ran Effect Handle Unit :=
  ⟨put ran.state, ran.trace, ran.result.map fun _ => ()⟩

/-- What a use does. One that a handle does not offer does nothing. -/
def Use.run : Use → Action Effect Handle Unit
  | .task work, .session s => ranOn .session (work.run s)
  | .task work, .stream s => ranOn (fun session => .stream { s with session }) (work.run s.session)
  | .start, .session s =>
    let started := Stream.start s
    match started.result with
    | .error e => ⟨.gone, started.trace, .error e⟩
    | .ok () => ranOn .stream started
  | .poll, .stream s => ranOn .stream s.next
  | .intoSession, .stream s => ⟨.session s.intoSession, [], .ok ()⟩
  | .close, .session s => ranOn (fun _ => .gone) s.close
  | .drop, .session s => ranOn (fun _ => .gone) s.drop
  | .drop, .stream s => ranOn (fun _ => .gone) s.session.drop
  | _, h => ⟨h, [], .ok ()⟩

/-- The handle behind uses. -/
def afterAll : List Use → Handle → Handle
  | [], h => h
  | use :: rest, h => afterAll rest (use.run h).state

/-- What is done to the outside in a run of uses. -/
def traceAll : List Use → Handle → List Effect
  | [], _ => []
  | use :: rest, h => (use.run h).trace ++ traceAll rest (use.run h).state

end Handle

/-! ## Polls -/

namespace Stream

open Session (Continues)

theorem continues_collect (t : Stream) :
    Continues t.session (collect t).state.session (collect t).trace := by
  have hlooked := (Session.listened_dispatch .nonBlocking (.ofEvents keep)
    (markReady false t.session) t.pending).continues
  rw [← Session.dispatchEvents_eq_dispatch] at hlooked
  exact ⟨hlooked.opened, hlooked.detachable⟩

/-- A poll ends no session. -/
theorem continues_next (t : Stream) :
    Continues t.session (next t).state.session (next t).trace := by
  fun_induction next t with
  | case1 t event rest hpending => exact ⟨by simp, id⟩
  | case2 t hpending hready collected e herror => exact continues_collect t
  | case3 t hpending hready collected hok hlt ih => exact (continues_collect t).trans ih
  | case4 t hpending hready => exact ⟨by simp, id⟩

end Stream

/-! ## One use -/

namespace Handle

open Session (Continues detaching flushing closings samplingPeer groupNames replyEnd)

/-- What a use can come to: the session goes on, or it ends, perhaps behind a switch of modes that
failed. -/
inductive Step : Handle → List Effect → Handle → Prop
  | gone : Step .gone [] .gone
  | held {h h' : Handle} {s s' : Session} {trace : List Effect} (hs : h.session? = some s)
      (hs' : h'.session? = some s') (hgoes : Continues s s' trace) : Step h trace h'
  | ended {h : Handle} {s : Session} {first : List Effect} (hs : h.session? = some s)
      (hfirst : first = [] ∨ first = [.call .event (.switched .nonBlocking)]) :
      Step h (first ++ (detaching s ++ flushing s ++ closings)) .gone

theorem Step.refl (h : Handle) : Step h [] h := by
  cases h with
  | session s => exact .held rfl rfl ⟨by simp, id⟩
  | stream s => exact .held rfl rfl ⟨by simp, id⟩
  | gone => exact .gone

/-- Closing and dropping a session are the last step of its handle. -/
theorem Step.of_close {h : Handle} {s : Session} (hs : h.session? = some s)
    (hends : s.Ends) : Step h s.close.trace .gone ∧ Step h s.drop.trace .gone := by
  have hended : Step h ([] ++ (detaching s ++ flushing s ++ closings)) .gone :=
    .ended hs (Or.inl rfl)
  rw [hends.close, hends.drop]
  exact ⟨hended, hended⟩

/-- Starting a stream is a step, be it with an error, which ends the session. -/
theorem step_start {s : Session} (hends : s.Ends) :
    Step (.session s) (Use.start.run (.session s)).trace (Use.start.run (.session s)).state := by
  obtain ⟨mode, made, ⟨ready, hstart⟩ | ⟨gone, e, hstart⟩⟩ := Session.start_cases s
  · rw [Use.run, hstart]
    refine .held rfl rfl ⟨?_, id⟩
    simp [ranOn, Effect.isClosed]
  · have htrace := hends.start e (by rw [hstart])
    have hended : Step (.session s) ([.call .event (.switched .nonBlocking)] ++
        (detaching s ++ flushing s ++ closings)) .gone := .ended rfl (Or.inr rfl)
    rw [hstart] at htrace
    rw [Use.run, hstart]
    dsimp only at htrace ⊢
    rw [htrace]
    exact hended

/-- Every use is a step. -/
theorem step_run (use : Use) {h : Handle}
    (hends : ∀ s, h.session? = some s → s.Ends) :
    Step h (use.run h).trace (use.run h).state := by
  cases use with
  | task work =>
    cases h with
    | session s => exact .held rfl rfl (work.continues s)
    | stream s => exact .held rfl rfl (work.continues s.session)
    | gone => exact .gone
  | start =>
    cases h with
    | session s => exact step_start (hends s rfl)
    | _ => exact .refl _
  | poll =>
    cases h with
    | stream s => exact .held rfl rfl s.continues_next
    | _ => exact .refl _
  | intoSession =>
    cases h with
    | stream s => exact .held rfl rfl ⟨by simp [Use.run], id⟩
    | _ => exact .refl _
  | close =>
    cases h with
    | session s => exact (Step.of_close rfl (hends s rfl)).1
    | _ => exact .refl _
  | drop =>
    cases h with
    | session s => exact (Step.of_close rfl (hends s rfl)).2
    | stream s => exact (Step.of_close rfl (hends s.session rfl)).2
    | gone => exact .gone

/-! ## Runs -/

/-- Whether the session that is held, if any, can be ended in full. -/
def Endable (h : Handle) : Prop := ∀ s, h.session? = some s → s.Detachable

theorem Endable.ends {h : Handle} (hend : Endable h) {s : Session} (hs : h.session? = some s) :
    s.Ends := Session.ends_of_detachable (hend s hs)

theorem Step.endable {h h' : Handle} {trace : List Effect} (hstep : Step h trace h')
    (hend : Endable h) : Endable h' := by
  cases hstep with
  | gone => exact hend
  | held hs hs' hgoes =>
    intro s hsome
    obtain rfl := Option.some.inj (hs'.symm.trans hsome)
    exact hgoes.detachable (hend _ hs)
  | ended => simp [Endable, session?]

theorem count_closed_eq_zero {trace : List Effect}
    (h : ∀ effect ∈ trace, effect.isClosed = false) (side : Side) :
    trace.count (.call side .closed) = 0 := by
  rw [List.count_eq_zero]
  intro hclosed
  exact Bool.noConfusion (h _ hclosed)

/-- The end of a session closes each connection once. -/
theorem count_closed_ending (s : Session) (side : Side) :
    (detaching s ++ flushing s ++ closings).count (.call side .closed) = 1 := by
  have hdetaching : ∀ effect ∈ detaching s, effect.isClosed = false := by
    unfold Session.detaching
    split <;> simp [Effect.isClosed]
  have hflushing : ∀ effect ∈ flushing s, effect.isClosed = false := by
    intro effect heffect
    obtain ⟨call, rfl⟩ := Session.sinks_flushing s effect heffect
    rfl
  have hclosings : closings.count (.call side .closed) = 1 := by
    cases side <;> rfl
  rw [List.count_append, List.count_append, count_closed_eq_zero hdetaching,
    count_closed_eq_zero hflushing, hclosings]

/-- A session that is held counts for one connection of each side that is still to be closed. -/
theorem Step.count_closed {h h' : Handle} {trace : List Effect} (hstep : Step h trace h')
    (side : Side) :
    trace.count (.call side .closed) + h'.session?.isSome.toNat = h.session?.isSome.toNat := by
  cases hstep with
  | gone => rfl
  | held hs hs' hgoes =>
    rw [count_closed_eq_zero hgoes.opened, hs, hs']
    rfl
  | @ended _ s first hs hfirst =>
    have hswitch : first.count (.call side .closed) = 0 := by
      rcases hfirst with rfl | rfl
      · rfl
      · simp
    rw [List.count_append, hswitch, count_closed_ending, hs]
    rfl

/-- Uses leave a session that can be ended in full, if they leave one. -/
theorem endable_afterAll (uses : List Use) {h : Handle} (hend : Endable h) :
    Endable (afterAll uses h) := by
  induction uses generalizing h with
  | nil => exact hend
  | cons use rest ih => exact ih ((step_run use fun _ => hend.ends).endable hend)

/-- A connection is closed once when the session goes, and not before. -/
theorem count_closed_traceAll (uses : List Use) {h : Handle} (hend : Endable h) (side : Side) :
    (traceAll uses h).count (.call side .closed) + (afterAll uses h).session?.isSome.toNat =
      h.session?.isSome.toNat := by
  induction uses generalizing h with
  | nil => simp [traceAll, afterAll]
  | cons use rest ih =>
    have hstep := step_run use fun _ => hend.ends
    have hfirst := hstep.count_closed side
    have hrest := ih (hstep.endable hend)
    rw [traceAll, afterAll, List.count_append]
    omega

/-- Nothing is left to be done behind the end. -/
theorem traceAll_gone (uses : List Use) : traceAll uses .gone = [] := by
  induction uses with
  | nil => rfl
  | cons use rest ih =>
    have hidle : use.run .gone = ⟨.gone, [], .ok ()⟩ := by
      cases use <;> rfl
    rw [traceAll, hidle]
    exact ih

/-- A session that has ended did so in one use, and all that its end takes was done there. -/
theorem exists_ending {uses : List Use} {h : Handle} (hend : Endable h)
    (hheld : h.session?.isSome) (hgone : afterAll uses h = .gone) :
    ∃ before use after s first, uses = before ++ use :: after ∧
      (afterAll before h).session? = some s ∧
      (first = [] ∨ first = [.call .event (.switched .nonBlocking)]) ∧
      traceAll uses h =
        traceAll before h ++ first ++ (detaching s ++ flushing s ++ closings) := by
  induction uses generalizing h with
  | nil =>
    rw [show h = .gone from hgone] at hheld
    exact Bool.noConfusion hheld
  | cons use rest ih =>
    have hstep := step_run use fun _ => hend.ends
    have hend' := hstep.endable hend
    rw [afterAll] at hgone
    rw [traceAll]
    generalize hstate : (use.run h).state = h' at hstep hend' hgone ⊢
    generalize htrace : (use.run h).trace = trace at hstep ⊢
    cases hstep with
    | gone => exact Bool.noConfusion hheld
    | held hs hs' hgoes =>
      obtain ⟨before, use', after, s, first, rfl, hbefore, hfirst, hrest⟩ :=
        ih hend' (by rw [hs']; rfl) hgone
      refine ⟨use :: before, use', after, s, first, rfl, ?_, hfirst, ?_⟩
      · rwa [afterAll, hstate]
      · rw [hrest, traceAll, hstate, htrace]
        simp only [List.append_assoc]
    | @ended _ s first hs hfirst =>
      refine ⟨[], use, rest, s, first, rfl, hs, hfirst, ?_⟩
      rw [traceAll_gone, List.append_nil]
      rfl

theorem afterAll_drop (uses : List Use) (h : Handle) : afterAll (uses ++ [.drop]) h = .gone := by
  induction uses generalizing h with
  | nil => cases h <;> rfl
  | cons use rest ih => exact ih (use.run h).state

/-- The life of a session, from its opening by any two connections to the end of its handle. An
opening that fails ends with its first failing step, and the event connection is closed if it was
there. A session that was opened ends once: then the filter on record is taken out of force, the
capture is flushed, and each connection is closed, whatever fails, and never before or again. -/
theorem released_once (groups : List String) (event control : Opening Call Connection) :
    let opened := Session.assemble groups event control
    Session.OpensInSteps groups event control opened.trace opened.result ∧
    (∀ e, opened.result = .error e → opened.trace.count (.call .event .closed) =
      event.trace.count .closed + event.result.toOption.isSome.toNat) ∧
    ∀ s, opened.result = .ok s → ∀ uses : List Use,
      let held := afterAll uses (.session s)
      let trace := traceAll uses (.session s)
      (∀ s', held.session? = some s' → s'.Ends) ∧
      (∀ side, trace.count (.call side .closed) = if held.session?.isSome then 0 else 1) ∧
      opened.trace.count (.call .event .closed) = event.trace.count .closed ∧
      opened.trace.count (.call .control .closed) = control.trace.count .closed ∧
      afterAll (uses ++ [.drop]) (.session s) = .gone ∧
      (held = .gone → ∃ before use after s' first, uses = before ++ use :: after ∧
        (afterAll before (.session s)).session? = some s' ∧
        (first = [] ∨ first = [.call .event (.switched .nonBlocking)]) ∧
        trace = traceAll before (.session s) ++ first ++
          (detaching s' ++ flushing s' ++ closings)) := by
  intro opened
  obtain ⟨hfailed, hopened⟩ := Session.count_closed_assemble groups event control
  refine ⟨Session.opensInSteps_assemble groups event control, hfailed, ?_⟩
  intro s hok uses held trace
  have hend : Endable (.session s) := by
    intro s' hs'
    obtain rfl := Option.some.inj hs'
    obtain ⟨c, c', -, -, -, rfl⟩ := Session.assemble_ok hok
    exact fun hsome => Bool.noConfusion hsome
  obtain ⟨hevent, hcontrol⟩ := hopened s hok
  refine ⟨fun s' => (endable_afterAll uses hend).ends, fun side => ?_, hevent, hcontrol,
    afterAll_drop uses _, exists_ending hend rfl⟩
  have hcount : trace.count (.call side .closed) + held.session?.isSome.toNat = 1 :=
    count_closed_traceAll uses hend side
  split
  · rename_i hheld
    rw [hheld] at hcount
    exact Nat.succ.inj hcount
  · rename_i hgone
    rw [Bool.eq_false_iff.mpr hgone] at hcount
    exact hcount

/-- The filter cannot be taken out of force and the capture cannot be flushed, and still a stream
that was turned back into a session is closed in full. The failed detach is reported. -/
theorem released_once_of_failures :
    let refused : Nat → Operation → Option Int := fun _ op => if op = .detach then some 9 else none
    let event := Connection.accept { samplingPeer with socket := { faults := refused } }
    let control := Connection.accept samplingPeer
    let flaky : Sink := .observer
      { flushFaults := fun n => if 0 < n then some (.io .writerFull) else none }
    let uses : List Use := [.task (.bind 7), .task (.arrive .control [.datagram (replyEnd 1)]),
      .task (.startCapture flaky 64 fun _ => ⟨0, 0⟩), .start, .poll, .intoSession, .close]
    ∃ s, (Session.assemble (groupNames true true) event control).result = .ok s ∧
      (traceAll uses (.session s)).drop 5 = [.call .event (.switched .nonBlocking),
        .call .event .detached, .sink (.flushed false), .call .event .closed,
        .call .control .closed] ∧
      (Use.close.run (afterAll (uses.take 6) (.session s))).result = .error (.os 9) ∧
      (∀ side, (traceAll uses (.session s)).count (.call side .closed) = 1) ∧
      ∀ s', (afterAll (uses.take 6) (.session s)).session? = some s' → s'.Ends := by
  intro refused event control flaky uses
  have hrun {s : Session} (hopen : (Session.assemble (groupNames true true) event
      control).result = .ok s) (uses : List Use) :=
    (released_once (groupNames true true) event control).2.2 s hopen uses
  refine ⟨_, rfl, by decide +kernel, by decide +kernel, fun side => ?_, ?_⟩
  · obtain ⟨-, hcount, -⟩ := hrun rfl uses
    rw [hcount]
    decide +kernel
  · obtain ⟨hends, -⟩ := hrun rfl (uses.take 6)
    exact hends

end Handle
end SampleTap
