import SampleTap.CommandLine.Arguments
import SampleTap.Report
import SampleTap.Session.Recording
import SampleTap.Stream

/-!
# The command line

What the program does with its arguments: it lists the sampling groups, captures the notifications,
or prints events as they come, up to a count. An error ends the program with its message; the
session is released whatever happens.

`CommandLine.run` is the whole program as a function of its surroundings. Its outcome is the exit
status, what was written, and everything that was done, in order.
-/

namespace SampleTap.CommandLine

/-- What the program finds when it starts. -/
structure Surroundings where
  /-- The first socket that it will open, and its peer. -/
  event : Socket
  /-- The second socket that it will open, and its peer. -/
  control : Socket
  interfaces : Report.InterfaceNames
  clock : Clock

/-- What the program does. -/
inductive Activity
  | session (effect : Effect)
  | printed (text : String)
deriving DecidableEq, Repr

/-- A part of the program's work: what was done, and how it ended. -/
structure Work where
  trace : List Activity
  result : Except Error Unit

namespace Work

/-- The work with other activities before it. -/
def after (trace : List Activity) (w : Work) : Work := { w with trace := trace ++ w.trace }

/-- Drops a session and ends with an error. -/
def abandon (e : Error) (s : Session) : Work := ⟨s.drop.trace.map .session, .error e⟩

/-- Closes a session and ends with what comes of that. -/
def close (s : Session) : Work := ⟨s.close.trace.map .session, s.close.result⟩

/-- Goes on with a session behind an action on it, or gives it up when the action failed. -/
def proceed {α : Type} (ran : Ran Effect Session α) (next : α → Session → Work) : Work :=
  let work :=
    match ran.result with
    | .ok a => next a ran.state
    | .error e => abandon e ran.state
  work.after (ran.trace.map .session)

/-- Goes on with a session that was opened. -/
def opened (opening : Opening Effect Session) (next : Session → Work) : Work :=
  let work :=
    match opening.result with
    | .ok s => next s
    | .error e => ⟨[], .error e⟩
  work.after (opening.trace.map .session)

end Work

/-! ## Kinds of work -/

/-- Restricts a session to a group when one is given. -/
def bind (group : Option UInt32) : Session.Act Unit :=
  match group with
  | some group => Session.bindGroup group
  | none => Action.pure ()

/-- Prints the sampling groups. -/
def list (env : Surroundings) (format : Report.Format) : Work :=
  Work.opened (({} : Session.Plan).assemble env.event env.control) fun s =>
    Work.proceed s.groups fun groups s =>
      let closed := Work.close s
      match closed.result with
      | .ok () => ⟨closed.trace ++ [.printed (Report.groupList format groups)], .ok ()⟩
      | .error _ => closed

/-- Captures notifications to a file until the event connection ends. -/
def capture (env : Surroundings) (path : String) (group : Option UInt32) : Work :=
  Work.opened (({} : Session.Plan).assemble env.event env.control) fun s =>
    Work.proceed (bind group s) fun _ s =>
      Work.proceed (s.startCaptureFile path env.clock) fun _ s =>
        Work.proceed s.recordEvents fun _ s => Work.close s

/-- Whether an event is printed; changes to groups are only on request. -/
def isWanted (monitor : Bool) : EventRecord → Bool
  | .sample _ => true
  | .config _ => monitor

/-- Prints events until a number of them is reached, an error comes or nothing more is there. -/
def watch (env : Surroundings) (options : Options) (format : Report.Format) (seen : Nat)
    (s : Stream) : Work :=
  if options.count.any (· ≤ seen) then Work.close s.intoSession
  else
    let polled := s.next
    let trace := polled.trace.map Activity.session
    match h : polled.result with
    | .error e => (Work.abandon e polled.state.intoSession).after trace
    | .ok .pending => (Work.close polled.state.intoSession).after trace
    | .ok (.event record) =>
      have := Stream.next_decreases h
      if isWanted options.monitor record then
        let line := Report.eventLine format env.interfaces record
        (watch env options format (seen + 1) polled.state).after (trace ++ [.printed line])
      else (watch env options format seen polled.state).after trace
termination_by (s.socket.backlog, s.pending.length)
decreasing_by all_goals assumption

/-- Prints events as they come. -/
def monitor (env : Surroundings) (options : Options) (format : Report.Format) : Work :=
  let plan : Session.Plan := { configGroup := options.monitor }
  Work.opened (plan.assemble env.event env.control) fun s =>
    Work.proceed (bind options.group s) fun _ s =>
      let started := Stream.start s
      let work : Work :=
        match started.result with
        | .error e => ⟨[], .error e⟩
        | .ok () => watch env options format 0 started.state
      work.after (started.trace.map .session)

/-- Does what the options ask for. -/
def perform (env : Surroundings) (options : Options) : Work :=
  let format : Report.Format := if options.json then .json else .text
  if options.listGroups then list env format
  else
    match options.write with
    | some path => capture env path options.group
    | none => monitor env options format

/-! ## Outcomes -/

/-- A finished run of the program. -/
structure Outcome where
  status : Nat
  /-- What was written to the standard output. -/
  output : Bytes := []
  /-- What was written to the standard error output. -/
  message : String := ""
  trace : List Activity := []

/-- The capture file that was created. -/
def createdFile? (trace : List Activity) : Option String :=
  trace.findSome? fun
    | .session (.sink (.created path)) => some path
    | _ => none

/-- The bytes of a capture that were written out. -/
def captured (trace : List Activity) : Bytes :=
  trace.flatMap fun
    | .session (.sink (.written data)) => data
    | _ => []

/-- The text that was printed. -/
def printedText (trace : List Activity) : Bytes :=
  trace.flatMap fun
    | .printed text => Bytes.ofText text
    | _ => []

/-- The capture file that a run left behind. -/
def Outcome.file? (o : Outcome) : Option (String × Bytes) :=
  (createdFile? o.trace).map fun path => (path, captured o.trace)

/-- What a run left in the file of a given name. -/
def Outcome.contents? (o : Outcome) (path : String) : Option Bytes :=
  match o.file? with
  | some (created, data) => if Path.place? path = Path.place? created then some data else none
  | none => none

/-- The outcome of finished work. A capture without a file went to the standard output. -/
def Outcome.ofWork (w : Work) : Outcome :=
  let output :=
    printedText w.trace ++ if (createdFile? w.trace).isSome then [] else captured w.trace
  match w.result with
  | .ok () => { status := 0, output, trace := w.trace }
  | .error e => { status := 1, output, message := "Error: " ++ e.chain ++ "\n", trace := w.trace }

/-- The outcome of arguments that ask for no work. -/
def Outcome.ofStop : Stop → Outcome
  | .help => { status := 0, output := Bytes.ofText helpText }
  | .version => { status := 0, output := Bytes.ofText versionText }
  | .refused refusal =>
    { status := 2,
      message := "error: " ++ refusal.message ++ "\n\n" ++ usage ++
        "\nFor more information, try '--help'.\n" }

/-- Runs the program. -/
def run (env : Surroundings) (arguments : List String) : Outcome :=
  match Options.read arguments with
  | .error stop => .ofStop stop
  | .ok options => .ofWork (perform env options)

end SampleTap.CommandLine
