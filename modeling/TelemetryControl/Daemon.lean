/-
TelemetryControl.Daemon — the agent as a process.

The process reads its configuration, makes the loggers and the pipeline
over them, opens the stream for export, and starts the agent; the first
that fails ends it with an error. A running agent cycles once at its start
and again whenever its snapshot file changes or the interval has passed,
until a signal ends it. The account of a process is what got through on
its console, and what it has written to the file of its stream. That file
may be one that the agent reads or watches. The last section is not about the
process but about following it from outside.
-/
import TelemetryControl.Agent
import TelemetryControl.Config.Load
import TelemetryControl.Config.Loggers
import TelemetryControl.Event.Stream
import TelemetryControl.Options
import TelemetryControl.Transcript

namespace TelemetryControl

/-- Why the process ends before it runs. -/
inductive DaemonFault where
  | configuration (fault : ConfigFault)
  | loggers (fault : Fault)
  /-- The file for export cannot be opened. -/
  | stream (fault : FileFault)
  | start (fault : StartFault)
deriving DecidableEq, Repr

/-- A fault as the process shows it. -/
def DaemonFault.shown : DaemonFault → String
  | .configuration f => f.shown
  | .loggers f => Text.Quoted.quote f.message
  | .stream f => "Io(" ++ f.shown ++ ")"
  | .start f => f.shown

/-- A running process. -/
structure Daemon where
  agent : Agent
  /-- The files that it sees. -/
  files : Directory
  /-- The identity of the file that the stream for export goes to, if it goes to
  one of these. -/
  stream : Option Nat
  transcript : Transcript
  /-- Whether the process has itself changed the file that it watches. -/
  disturbed : Bool

namespace Daemon

/-! ## 1. Starting -/

/-- The configuration file that a command line names, if any. -/
def arguments (args : List String) : Except Usage (Option String) :=
  match Options.read [⟨'c', "config", false⟩] [] args with
  | .error u => .error u
  | .ok (given, []) => .ok (given.lookup 'c')
  | .ok (_, _ :: _) => .error .mistake

/-- The configuration to run with. -/
def configuration (path : Option String) (d : Directory) : Except ConfigFault Config :=
  match path with
  | none => .ok .default
  | some p => Config.load d p

/-- The files with the stream that a configuration wants open, and its identity. -/
def openStream (c : ObservabilityConfig) (d : Directory) :
    Except FileFault (Directory × Option Nat) :=
  match c.streamPath with
  | none => .ok (d, none)
  | some p => d.openToAppend p

/-- What is reported of the metrics. -/
def metricsNotices (c : ObservabilityConfig) : List Notice :=
  if c.metricsEnabled then
    match SocketAddress.parse? c.metricsAddress with
    | some a => [.metricsListening a.text]
    | none => [.metricsAddressRejected c.metricsAddress]
  else []

/-- The pipeline under control. -/
def pipeline (p : Daemon) : Pipeline := p.agent.loop.control.pipeline

/-- Whether a signal counts for the watch of the process, if it has one. -/
def notices (p : Daemon) (signals : List Signal) : Bool :=
  p.agent.watch.any (fun w => signals.any w.isRelevant)

/-- Takes a longer transcript, writing what is new in the stream to its file. -/
def log (p : Daemon) (t : Transcript) : Daemon :=
  let lines := (t.stream.drop p.transcript.stream.length).map Event.streamLine
  match p.stream, lines with
  | some i, _ :: _ =>
    let (files, signals) := p.files.append i (Text.octets (String.join lines))
    { p with
      files := files
      transcript := t
      disturbed := p.disturbed || p.notices signals }
  | _, _ => { p with transcript := t }

/-- Reports what changes nothing. -/
def report (p : Daemon) (notices : List Notice) : Daemon :=
  p.log (notices.foldl (fun t n => t.record p.pipeline n) p.transcript)

/-- Lets an event happen to the loop. -/
def feed (p : Daemon) (e : LoopEvent) : Daemon :=
  let (loop, notices) := p.agent.loop.step e
  { p.log (p.transcript.recordStep p.pipeline loop.control.pipeline notices) with
    agent := { p.agent with loop := loop } }

/-- Fetches what is there now and ends the cycle that is due. -/
def cycle (p : Daemon) : Daemon :=
  let fetching := p.feed .startFetch
  fetching.feed (.fetched (fetching.agent.source.fetch fetching.files))

/-- A cycle at the next tick. -/
def poll (p : Daemon) : Daemon :=
  (p.feed .tick).cycle

/-- A cycle because the watched file has changed. -/
def wake (p : Daemon) : Daemon :=
  (((p.report [.fileChanged p.agent.source.description]).feed .signal).feed .takeWake).cycle

/-- The cycle that follows where the process has itself changed the file that it
watches. Its report may change that file again, so one cycle can lead to the next
without an end. -/
def followUp (p : Daemon) : Daemon :=
  if p.disturbed then { p with disturbed := false }.wake else p

/-- Starts the process of a configuration and runs its first cycle. -/
def launch (path : Option String) (identity : String) (d : Directory) : Except DaemonFault Daemon :=
  match configuration path d with
  | .error f => .error (.configuration f)
  | .ok c =>
    match c.tree with
    | .error f => .error (.loggers f)
    | .ok tree =>
      match openStream c.observability d with
      | .error f => .error (.stream f)
      | .ok (files, stream) =>
        match Agent.start c identity files (.create tree) with
        | .error f => .error (.start f)
        | .ok agent =>
          let p : Daemon := ⟨agent, files, stream, .empty, false⟩
          let watching :=
            { p.report ([.agentStarting] ++ metricsNotices c.observability) with
              disturbed := false }
          .ok (watching.report (agent.startNotices c)).poll

/-! ## 2. Running and ending -/

/-- Lets files change. A watched change wakes the loop at once; any other is only
found at the next poll. -/
def changeFiles (p : Daemon) (changes : List Directory.Change) : Daemon :=
  let (files, signals) := p.files.changeAll changes
  let changed := { p with files := files }
  if p.notices signals then changed.wake else changed

/-- Ends the process on a signal. -/
def finish (p : Daemon) (signal : String) : Daemon :=
  ((p.report [.signalReceived signal, .shutdownReceived]).feed (.shutdown .signal)).report
    [.agentStopped, .shutdownComplete]

/-! ## 3. Looking on

A process polls without an end, and cycles without an end when its stream goes to
the file that it watches. Nothing of what follows is done by the process. It is for
whoever runs one to see what it shows, and says how far the process is followed:
until some texts stand on its console, and then its files are changed or it is
ended. -/

/-- How many polls or cycles at most are waited for: after a few they only repeat
themselves. -/
def patience : Nat := 4

/-- So many cycles at most, as long as one leads to the next. -/
def followUps : Nat → Daemon → Daemon
  | 0, p => p
  | fuel + 1, p => if p.disturbed then followUps fuel p.followUp else p

/-- The process when it has come to rest, if ever it does. -/
def settled (p : Daemon) : Daemon :=
  followUps patience p

/-- Whether all of some texts stand on the console. -/
def hasShown (p : Daemon) (texts : List String) : Bool :=
  texts.all (fun t =>
    p.transcript.console.any (fun e => Text.occursIn t.toList e.consoleLine.toList))

/-- Lets so many polls pass at most until all of some texts stand on the console. -/
def pollFor (texts : List String) : Nat → Daemon → Daemon
  | 0, p => p
  | fuel + 1, p => if p.hasShown texts then p else pollFor texts fuel p.poll.settled

/-- Waits until all of some texts stand on the console, if ever they do. -/
def await (p : Daemon) (texts : List String) : Daemon :=
  pollFor texts patience p

/-- A process that was launched and has come to rest. -/
def boot (path : Option String) (identity : String) (d : Directory) : Except DaemonFault Daemon :=
  (launch path identity d).map settled

/-- A process whose files were changed, at rest again. -/
def filesChanged (p : Daemon) (changes : List Directory.Change) : Daemon :=
  (p.changeFiles changes).settled

end Daemon

end TelemetryControl
