/-
TelemetryControl.Check — looking over a snapshot before it is used.

The check reads a snapshot file as a control cycle does and lists what the
cycle would refuse: level texts that name no severity, in both tables, and
a ratio out of range. Whether the loggers exist is not looked at, since
only the agent knows its loggers.
-/
import TelemetryControl.Directory
import TelemetryControl.Sampling.Sampler
import TelemetryControl.Snapshot.Decode

namespace TelemetryControl

/-- A part of a snapshot that would be refused. -/
inductive SnapshotProblem where
  | level (table : EntryTable) (logger : String) (fault : Fault)
  | ratio (fault : Fault)
deriving DecidableEq, Repr

namespace SnapshotProblem

def fault : SnapshotProblem → Fault
  | level _ _ f => f
  | ratio f => f

/-- The line that reports a problem. -/
def line : SnapshotProblem → String
  | level table logger f => table.name ++ ": " ++ logger ++ ": " ++ f.message
  | ratio f => "sampleRatio: " ++ f.message

end SnapshotProblem

namespace Snapshot

/-- The entries of a table whose level names no severity. -/
def levelProblems (table : EntryTable) (entries : List LevelEntry) : List SnapshotProblem :=
  entries.filterMap (fun e =>
    match Severity.parse e.level with
    | .ok _ => none
    | .error f => some (.level table e.logger f))

/-- The ratio, if it is out of range. -/
def ratioProblems (s : Snapshot) : List SnapshotProblem :=
  match s.sampleRatio with
  | none => []
  | some r =>
    match Sampler.new r with
    | .ok _ => []
    | .error f => [.ratio f]

/-- All that would be refused of a snapshot: levels, sampling levels, ratio. -/
def problems (s : Snapshot) : List SnapshotProblem :=
  levelProblems .logLevels s.logLevels ++
    levelProblems .samplingLogLevels s.samplingLogLevels ++ s.ratioProblems

/-- The line that sums up a snapshot. -/
def summary (s : Snapshot) (path : String) : String :=
  path ++ ": " ++ toString s.logLevels.length ++ " log level(s), " ++
    toString s.samplingLogLevels.length ++ " sampling level(s), sample ratio " ++
    (match s.sampleRatio with
      | some r => Layout.plain.write r
      | none => "unchanged")

end Snapshot

/-- Why a command of the operator's tool fails. -/
inductive CommandFault where
  | unreadable (fault : FileFault)
  | malformed (fault : Fault)
  | invalidEntries (count : Nat)
  /-- The key cannot be sent. -/
  | badKey
  /-- The request could not be sent. -/
  | unsent
deriving DecidableEq, Repr

/-- A fault as the tool shows it. -/
def CommandFault.shown : CommandFault → String
  | .unreadable f => f.shown
  | .malformed f => "Parse(" ++ Text.Quoted.quote f.message ++ ")"
  | .invalidEntries n => Text.Quoted.quote (toString n ++ " invalid entries would be skipped")
  | .badKey => "InvalidHeaderValue"
  | .unsent => "the request could not be sent"

/-- What a command leaves: its output, its reports, and how it ended. -/
structure CommandResult where
  output : List String
  reports : List String
  fault : Option CommandFault
deriving DecidableEq, Repr

namespace CommandResult

/-- A command that failed at once. -/
def failed (f : CommandFault) : CommandResult := ⟨[], [], some f⟩

def exit (r : CommandResult) : Nat :=
  if r.fault.isSome then 1 else 0

end CommandResult

namespace Check

/-- The check of a snapshot that was read. -/
def ofSnapshot (path : String) (s : Snapshot) : CommandResult :=
  let ps := s.problems
  ⟨[s.summary path], ps.map SnapshotProblem.line,
    if ps.isEmpty then none else some (.invalidEntries ps.length)⟩

/-- The check of a file's content. -/
def ofContent (path : String) (content : List UInt8) : CommandResult :=
  match Snapshot.parse (.ofPath path) content with
  | .error f => .failed (.malformed f)
  | .ok s => ofSnapshot path s

/-- The check of a file. -/
def ofFile (d : Directory) (path : String) : CommandResult :=
  match d.read path with
  | .error f => .failed (.unreadable f)
  | .ok content => ofContent path content

end Check

end TelemetryControl
