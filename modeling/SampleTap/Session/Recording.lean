import SampleTap.Capture.Path
import SampleTap.Session

/-!
# Capturing datagrams

A capture starts with the controller's description of the family, which a reader of the capture
needs to make sense of the notifications. After that it takes the datagrams of the event connection.
Both are one loop, `record`: receive a datagram, write its frame, and ask whether to go on.

A capture that cannot be started is given up; one that is under way survives every error.
-/

namespace SampleTap.Session

/-- Receives datagrams on a side and writes each into a capture, for as long as `proceeds` says, or
until an empty datagram or an error. -/
def record (side : Side) (proceeds : Bytes → Except Error Bool) (socket : Socket)
    (capture : Capture) : Ran Effect (Socket × Capture) Unit :=
  let received := Socket.receive socket
  let calls := received.trace.map (Effect.call side)
  match h : received.result with
  | .error e => ⟨(received.state, capture), calls, .error e⟩
  | .ok data =>
    if data.isEmpty then ⟨(received.state, capture), calls, .ok ()⟩
    else
      let written := capture.write data
      let trace := calls ++ written.trace.map Effect.sink
      match written.result with
      | .error e => ⟨(received.state, written.state), trace, .error e⟩
      | .ok () =>
        match proceeds data with
        | .error e => ⟨(received.state, written.state), trace, .error e⟩
        | .ok false => ⟨(received.state, written.state), trace, .ok ()⟩
        | .ok true =>
          have : received.state.queue.length < socket.queue.length := Socket.receive_shorter h
          (record side proceeds received.state written.state).after trace
termination_by socket.queue.length

/-! ## Starting -/

/-- Sends the request for the family's description and gives its sequence number. -/
def requestDescription : Connection.Act UInt32 := do
  let c ← Action.get
  let request ←
    Connection.prepare Controller.family Controller.getFamily Controller.version Controller.flags
  let request := request.attrU16 Family.idAttr c.family.id
  Connection.onSocket (Socket.send request.finish)
  return request.seq

/-- Whether a reply goes on after a datagram. -/
def replyProceeds (seq : UInt32) (data : Bytes) : Except Error Bool :=
  let visit : Unit → Message → Unit × Except Error (Flow Empty) := fun _ _ => ((), .ok .proceed)
  match (Batch.run (some seq) visit () data).2 with
  | .error e => .error e
  | .ok .more => .ok true
  | .ok _ => .ok false

/-- Asks the controller for the family's description and records the reply. -/
def recordDescription : Action Effect (Session × Capture) Unit := do
  let seq ← Action.on Prod.fst (fun sc s => (s, sc.2)) id (onControl requestDescription)
  Action.on (fun (s, capture) => (s.control.socket, capture))
    (fun (s, _) (socket, capture) =>
      ({ s with control := { s.control with socket := socket } }, capture))
    id fun (socket, capture) => record .control (replyProceeds seq) socket capture

/-- Starts a capture into a destination. A session has one capture at a time. -/
def startCapture (sink : Sink) (snaplen : UInt32) (clock : Clock) : Act Unit := fun s =>
  if s.capture.isSome then
    ⟨s, sink.release.map .sink, .error .captureAlreadyInitialized⟩
  else
    match Capture.start sink snaplen clock with
    | .error e => ⟨s, sink.release.map .sink, .error e⟩
    | .ok capture =>
      let recorded := recordDescription (s, capture)
      let (s, capture) := recorded.state
      match recorded.result with
      | .error e => ⟨s, recorded.trace ++ capture.sink.release.map .sink, .error e⟩
      | .ok () => ⟨{ s with capture := some capture }, recorded.trace, .ok ()⟩

/-- Starts a capture into a file, or to the standard output when the name stands for it. The files
are those of a directory that holds nothing yet. -/
def startCaptureFile (path : String) (clock : Clock) : Act Unit := fun s =>
  if s.capture.isSome then ⟨s, [], .error .captureAlreadyInitialized⟩
  else
    match Path.openWriter path with
    | .error failure => ⟨s, [], .error (.io failure)⟩
    | .ok writer =>
      let opened := if Path.isStandardOutput path then [] else [Effect.sink (.created path)]
      let created := PcapFile.create Capture.defaultSnaplen writer
      let trace := opened ++ created.trace.map (Effect.sink ∘ .written)
      match created.result with
      | .error e => ⟨s, trace, .error e⟩
      | .ok file => (startCapture (.file file) Capture.defaultSnaplen clock s).after trace

/-! ## Going on -/

/-- Records the datagrams of the event connection, in blocking mode, until an empty one or an
error. -/
def recordEvents : Act Unit := fun s =>
  match s.capture with
  | none => ⟨s, [], .error .captureNotInitialized⟩
  | some capture =>
    let switched := setMode .blocking s
    match switched.result with
    | .error e => ⟨switched.state, switched.trace, .error e⟩
    | .ok () =>
      let s := switched.state
      let ran := record .event (fun _ => .ok true) s.event.socket capture
      let (socket, capture) := ran.state
      ⟨{ s with event := { s.event with socket := socket }, capture := some capture },
        switched.trace ++ ran.trace, ran.result⟩

/-- Ends the capture. -/
def finishCapture : Act Unit := fun s =>
  if s.capture.isSome then releaseCapture s else ⟨s, [], .error .captureNotInitialized⟩

end SampleTap.Session
