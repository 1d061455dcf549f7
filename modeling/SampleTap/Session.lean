import SampleTap.Capture
import SampleTap.Connection.Opening
import SampleTap.GroupFilter

/-!
# Sessions

A session is a subscription to the sampling family: an event connection that is subscribed to the
family's multicast groups, and a control connection for requests, so that replies never mix with
notifications. It remembers the group filter that is in force on the event connection and the
capture that is under way.

The trace of a session tells every call on either connection and everything done with a capture's
destination, in one order.
-/

namespace SampleTap

/-- One of a session's two connections. -/
inductive Side
  | event
  | control
deriving DecidableEq, Repr

/-- What a session does to the outside. -/
inductive Effect
  | call (side : Side) (call : Call)
  | sink (call : SinkCall)
deriving DecidableEq, Repr

/-- A subscription to the sampling family. -/
structure Session where
  event : Connection
  control : Connection
  filter : Option GroupFilter := none
  capture : Option Capture := none

namespace Session

/-- The actions on sessions. -/
abbrev Act (α : Type) : Type := Action Effect Session α

/-- An action on the event connection. -/
def onEvent {α : Type} (act : Connection.Act α) : Act α :=
  Action.on event (fun s c => { s with event := c }) (.call .event) act

/-- An action on the control connection. -/
def onControl {α : Type} (act : Connection.Act α) : Act α :=
  Action.on control (fun s c => { s with control := c }) (.call .control) act

/-! ## Opening -/

/-- The name of the sampling family. -/
def familyName : String := "psample"

/-- The version of the sampling family's protocol. -/
def familyVersion : UInt8 := 1

/-- The multicast group of changes to sampling groups. -/
def configGroupName : String := "config"

/-- The multicast group of samples. -/
def sampleGroupName : String := "packets"

/-- The multicast groups to join. -/
def groupNames (config sample : Bool) : List String :=
  (if config then [configGroupName] else []) ++ (if sample then [sampleGroupName] else [])

/-- Joins multicast groups in order. -/
def joinAll : List String → Connection.Act Unit
  | [] => Action.pure ()
  | name :: rest => do
    Connection.joinGroup name
    joinAll rest

/-- Opens the event connection, joins its multicast groups, and then opens the control connection.
What was opened is closed when a later step fails. -/
def assemble (groups : List String) (event control : Opening Call Connection) :
    Opening Effect Session :=
  let onEvent := Effect.call .event
  match event.result with
  | .error e => ⟨event.trace.map onEvent, .error e⟩
  | .ok connection =>
    let joined := joinAll groups connection
    let trace := (event.trace ++ joined.trace).map onEvent
    match joined.result with
    | .error e => ⟨trace ++ [onEvent .closed], .error e⟩
    | .ok () =>
      let trace := trace ++ control.trace.map (.call .control)
      match control.result with
      | .error e => ⟨trace ++ [onEvent .closed], .error e⟩
      | .ok control => ⟨trace, .ok { event := joined.state, control }⟩

/-- How to open a session over sockets. -/
structure Plan where
  family : String := familyName
  version : UInt8 := familyVersion
  /-- Whether to join the multicast group of changes to sampling groups. -/
  configGroup : Bool := true
  /-- Whether to join the multicast group of samples. -/
  sampleGroup : Bool := true
  /-- The size of each connection's receive buffer. -/
  bufferSize : Nat := Socket.defaultCapacity

/-- Opens a session over two sockets. -/
def Plan.assemble (plan : Plan) (event control : Socket) : Opening Effect Session :=
  let connect := Connection.openSocket plan.family plan.version plan.bufferSize
  Session.assemble (groupNames plan.configGroup plan.sampleGroup) (connect event) (connect control)

/-! ## The event connection -/

/-- Switches the receive mode of the event connection. -/
def setMode (mode : Mode) : Act Unit := onEvent (Connection.onSocket (Socket.setMode mode))

/-- Lets only the notifications of one group through, in place of any group before. When the old
filter cannot be taken out of force it stays; when the new one cannot be put in force there is
none. -/
def bindGroup (group : UInt32) : Act Unit := do
  let s ← Action.get
  if s.filter.isSome then
    onEvent (Connection.onSocket Socket.detach)
    Action.modify fun s => { s with filter := none }
  onEvent (Connection.onSocket (Socket.attach (GroupFilter.mk group).program))
  Action.modify fun s => { s with filter := some ⟨group⟩ }

/-! ## The end of a session -/

/-- Takes the filter out of force when there is one; the session forgets it either way. -/
def releaseFilter : Act Unit := fun s =>
  match s.filter with
  | none => ⟨s, [], .ok ()⟩
  | some _ => onEvent (Connection.onSocket Socket.detach) { s with filter := none }

/-- Ends the capture when there is one. -/
def releaseCapture : Act Unit := fun s =>
  match s.capture with
  | none => ⟨s, [], .ok ()⟩
  | some capture =>
    let (trace, result) := capture.finish
    ⟨{ s with capture := none }, trace.map .sink, result⟩

/-- Takes down what a session put up: the filter goes, and the capture ends whatever became of the
filter. The first failure is reported. -/
def teardown : Act Unit := fun s =>
  let detached := releaseFilter s
  let finished := releaseCapture detached.state
  ⟨finished.state, detached.trace ++ finished.trace,
    match detached.result with
    | .error e => .error e
    | .ok () => finished.result⟩

/-- Gives a session up: what is still up is taken down, with nobody to report a failure to, and the
connections close. -/
def drop : Act Unit := fun s =>
  let torn := teardown s
  ⟨torn.state, torn.trace ++ [.call .event .closed, .call .control .closed], .ok ()⟩

/-- Takes a session down, reports how that went, and gives up what is left. -/
def close : Act Unit := fun s =>
  let torn := teardown s
  let dropped := drop torn.state
  ⟨dropped.state, torn.trace ++ dropped.trace, torn.result⟩

/-- What a teardown takes down it forgets, whatever becomes of it. -/
theorem bare_teardown (s : Session) :
    (teardown s).state.filter = none ∧ (teardown s).state.capture = none := by
  have hfilter : (releaseFilter s).state.filter = none := by
    unfold releaseFilter
    cases hfilter : s.filter with
    | none => exact hfilter
    | some f => rfl
  unfold teardown releaseCapture
  dsimp only
  cases hcapture : (releaseFilter s).state.capture with
  | none => exact ⟨hfilter, hcapture⟩
  | some capture => exact ⟨hfilter, rfl⟩

theorem teardown_of_bare {s : Session} (hfilter : s.filter = none) (hcapture : s.capture = none) :
    teardown s = ⟨s, [], .ok ()⟩ := by
  have hquiet : releaseFilter s = ⟨s, [], .ok ()⟩ := by rw [releaseFilter, hfilter]
  rw [teardown, hquiet]
  dsimp only
  rw [releaseCapture, hcapture]
  rfl

/-- Behind a teardown a drop only closes the connections. -/
theorem drop_teardown (s : Session) :
    drop (teardown s).state =
      ⟨(teardown s).state, [.call .event .closed, .call .control .closed], .ok ()⟩ := by
  obtain ⟨hfilter, hcapture⟩ := bare_teardown s
  rw [drop, teardown_of_bare hfilter hcapture]
  rfl

/-- Closing a session does what dropping it does, and tells how the teardown went. -/
theorem close_eq (s : Session) :
    close s = ⟨(drop s).state, (drop s).trace, (teardown s).result⟩ := by
  rw [close, drop_teardown]
  rfl

end Session

end SampleTap
