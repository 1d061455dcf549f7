import SampleTap.Proofs.Action
import SampleTap.Proofs.Stream

/-!
# Streams that stall

A stream acts on readiness, and a look clears it. So when a look ends early, what it leaves behind
is not looked at until something else arrives: the stream has nothing for now, over a queue that is
not empty. `queue_of_next_eq_pending_iff` says that this is the only way to get there.

`Awake` is what a stream keeps otherwise: it is ready, or its queue is empty.
-/

namespace SampleTap
namespace Stream

/-! ## Runs -/

/-- Something that happens to a stream. -/
inductive Step
  /-- Datagrams and failed receives arrive at the event connection. -/
  | arrive (items : List Arrival)
  | poll

namespace Step

/-- The stream behind a step. -/
def after (t : Stream) : Step → Stream
  | arrive items => { t with session := t.session.withSocket (t.socket.deliver items) }
  | poll => (next t).state

/-- Whether nothing arrives in a step. -/
def isQuiet : Step → Bool
  | arrive items => items.isEmpty
  | poll => true

/-- Whether a step brings no pause. -/
def Steady : Step → Prop
  | arrive items => .pause ∉ items
  | poll => True

end Step

/-- The stream behind a run. -/
def run : List Step → Stream → Stream
  | [], t => t
  | step :: rest, t => run rest (step.after t)

theorem run_append (before after : List Step) (t : Stream) :
    run (before ++ after) t = run after (run before t) := by
  induction before generalizing t with
  | nil => rfl
  | cons step before ih => exact ih (step.after t)

/-! ## What a step does to an awake stream -/

/-- Whether a stream will look at its queue when there is something in it. -/
def Awake (t : Stream) : Prop := t.socket.ready = true ∨ t.socket.queue = []

/-- Whether a poll looks at the queue and leaves something behind. -/
def LeavesBehind (t : Stream) : Prop := t.Looks ∧ t.session.leftBehind ≠ []

theorem mem_of_mem_leftBehind {s : Session} {arrival : Arrival} (h : arrival ∈ s.leftBehind) :
    arrival ∈ s.event.socket.queue := by
  unfold Session.leftBehind at h
  split at h
  · exact h
  · exact (List.dropWhile_suffix _).mem (List.mem_of_mem_tail h)

/-- Steps that bring no pause queue none. -/
theorem pause_not_mem_after {t : Stream} {step : Step} (hpause : .pause ∉ t.socket.queue)
    (hstep : step.Steady) : .pause ∉ (step.after t).socket.queue := by
  cases step with
  | arrive items =>
    show .pause ∉ t.socket.queue ++ items
    rw [List.mem_append, not_or]
    exact ⟨hpause, hstep⟩
  | poll =>
    by_cases hlooks : t.Looks
    -- A look leaves a part of the queue behind.
    · rw [Step.after, (socket_next_of_looks hpause hlooks).2]
      exact fun h => hpause (mem_of_mem_leftBehind h)
    · rw [Step.after, socket_next_of_not_looks hlooks]
      exact hpause

/-- A stream falls asleep over its queue by leaving something behind, and stays asleep for as long
as nothing arrives. -/
theorem not_awake_after_iff {t : Stream} {step : Step} (hpause : .pause ∉ t.socket.queue) :
    ¬ (step.after t).Awake ↔
      (step = .poll ∧ t.LeavesBehind) ∨ (¬ t.Awake ∧ step.isQuiet = true) := by
  cases step with
  | arrive items =>
    cases items with
    | nil => simp [Awake, Step.after, Step.isQuiet, socket, Socket.deliver]
    | cons item items => simp [Awake, Step.after, Step.isQuiet, socket, Socket.deliver]
  | poll =>
    by_cases hlooks : t.Looks
    · obtain ⟨hready, hqueue⟩ := socket_next_of_looks hpause hlooks
      simp [Awake, Step.after, LeavesBehind, hready, hqueue, hlooks, hlooks.2]
    · simp [Awake, Step.after, LeavesBehind, Step.isQuiet, socket_next_of_not_looks hlooks, hlooks]

/-! ## What a run does -/

/-- A run ends over a queue that is slept on when a look left something behind and nothing arrived
since, and when the stream slept from the start. -/
theorem not_awake_run_iff {t : Stream} {steps : List Step} (hpause : .pause ∉ t.socket.queue)
    (hsteps : ∀ step ∈ steps, step.Steady) :
    ¬ (run steps t).Awake ↔
      (¬ t.Awake ∧ ∀ step ∈ steps, step.isQuiet) ∨
        ∃ before after, steps = before ++ .poll :: after ∧ (∀ step ∈ after, step.isQuiet) ∧
          (run before t).LeavesBehind := by
  induction steps generalizing t with
  | nil => simp [run]
  | cons step rest ih =>
    obtain ⟨hstep, hrest⟩ := List.forall_mem_cons.mp hsteps
    -- The first step decides whether the rest of the run starts awake.
    rw [run, ih (pause_not_mem_after hpause hstep) hrest, not_awake_after_iff hpause]
    constructor
    · rintro (⟨⟨rfl, hleaves⟩ | ⟨hasleep, hquiet⟩, hall⟩ | ⟨before, after, rfl, hall, hleaves⟩)
      · exact Or.inr ⟨[], rest, rfl, hall, hleaves⟩
      · exact Or.inl ⟨hasleep, List.forall_mem_cons.mpr ⟨hquiet, hall⟩⟩
      · exact Or.inr ⟨step :: before, after, rfl, hall, hleaves⟩
    · rintro (⟨hasleep, hall⟩ | ⟨before, after, hsplit, hall, hleaves⟩)
      · obtain ⟨hquiet, hall⟩ := List.forall_mem_cons.mp hall
        exact Or.inl ⟨Or.inr ⟨hasleep, hquiet⟩, hall⟩
      · cases before with
        | nil =>
          obtain ⟨rfl, rfl⟩ := List.cons.inj hsplit
          exact Or.inl ⟨Or.inl ⟨rfl, hleaves⟩, hall⟩
        | cons step' before =>
          obtain ⟨rfl, rfl⟩ := List.cons.inj hsplit
          exact Or.inr ⟨before, after, rfl, hall, hleaves⟩

/-! ## Stalls -/

/-- A new stream is awake, over the queue of the session. -/
theorem awake_start {s : Session} (h : (start s).result = .ok ()) :
    (start s).state.Awake ∧ (start s).state.socket.queue = s.event.socket.queue := by
  rw [start_ok h]
  cases hqueue : s.event.socket.queue <;> simp [Awake, socket, Socket.switched, hqueue]

/-- A stream that has nothing for now has no event left. Its queue is empty, unless a look left
something behind and nothing arrived since. -/
theorem queue_of_next_eq_pending_iff {s : Session} {steps : List Step}
    (hstart : (start s).result = .ok ()) (hpause : .pause ∉ s.event.socket.queue)
    (hsteps : ∀ step ∈ steps, step.Steady)
    (hpending : (next (run steps (start s).state)).result = .ok .pending) :
    let t := run (steps ++ [.poll]) (start s).state
    t.pending = [] ∧
      (t.socket.queue = [] ↔
        ¬ ∃ before after, steps ++ [.poll] = before ++ .poll :: after ∧
          (∀ step ∈ after, step.isQuiet) ∧ (run before (start s).state).LeavesBehind) := by
  obtain ⟨hawake, hqueue⟩ := awake_start hstart
  have hlast : run (steps ++ [.poll]) (start s).state =
      (next (run steps (start s).state)).state := by
    rw [run_append]
    rfl
  obtain ⟨hnone, hready⟩ := of_next_eq_pending hpending
  rw [← hlast] at hnone hready
  -- A stream that is not ready is awake over an empty queue only.
  have hasleep : (run (steps ++ [.poll]) (start s).state).socket.queue = [] ↔
      (run (steps ++ [.poll]) (start s).state).Awake := by
    simp [Awake, hready]
  have hall : ∀ step ∈ steps ++ [.poll], step.Steady :=
    List.forall_mem_append.mpr ⟨hsteps, by simp [Step.Steady]⟩
  have hslept := (not_awake_run_iff (hqueue ▸ hpause) hall).trans
    (or_iff_right (not_and_of_not_left _ (not_not_intro hawake)))
  refine ⟨hnone, hasleep.trans ⟨fun hstill hleft => hslept.mpr hleft hstill, fun hnever => ?_⟩⟩
  exact Classical.byContradiction fun hstill => hnever (hslept.mp hstill)

/-- A datagram whose one message is cut off. -/
def cutNotification : Bytes := (notification 7).take 20

theorem queue_of_next_eq_pending_iff_cut :
    let s := Session.withArrivals []
    let steps := [.arrive [.datagram cutNotification, .datagram (notification 7)], .poll]
    (start s).result = .ok () ∧ .pause ∉ s.event.socket.queue ∧
      (∀ step ∈ steps, Step.Steady step) ∧
      (next (run steps (start s).state)).result = .ok .pending ∧
      (let t := run (steps ++ [.poll]) (start s).state
       t.pending = [] ∧
        (t.socket.queue = [] ↔
          ¬ ∃ before after, steps ++ [.poll] = before ++ .poll :: after ∧
            (∀ step ∈ after, step.isQuiet) ∧ (run before (start s).state).LeavesBehind)) :=
  have hpause := List.not_mem_nil
  have hsteps := by simp [Step.Steady]
  have hpending := ok_of_toOption (by decide +kernel)
  ⟨rfl, hpause, hsteps, hpending, queue_of_next_eq_pending_iff rfl hpause hsteps hpending⟩

/-- A sample behind a datagram that cannot be read stays in the queue while the stream has nothing
for now. -/
theorem stalls_behind_cut_notification :
    ∃ s, (Session.assemble (Session.groupNames true true)
        (Connection.accept Session.samplingPeer) (Connection.accept Session.samplingPeer)).result =
        .ok s ∧
      let t := run [.arrive [.datagram cutNotification, .datagram (notification 7)], .poll]
        (start s).state
      (start s).result = .ok () ∧ (next t).result = .ok .pending ∧
        (next t).state.socket.queue = [.datagram (notification 7)] := by
  refine ⟨_, rfl, ?_⟩
  exact ⟨rfl, ok_of_toOption (by decide +kernel), by decide +kernel⟩

end Stream
end SampleTap
