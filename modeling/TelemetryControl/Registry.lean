/-
TelemetryControl.Registry — remote overrides laid over the local levels.

A registry is made once, over loggers that are then known: it notes which
loggers there are and what level each had in force. Applying a snapshot
installs a level for every entry that holds up, restores the loggers that
the snapshot no longer names, and publishes the two override tables.

Three rules keep the local operator in charge.

* The level installed is the lesser of what was asked for and what the
  logger had before its first override, so an override only adds verbosity.
* That first level, the baseline, is captured once and never again, and a
  logger dropped from the next snapshot gets it back.
* Records for local sinks pass the threshold asked for, or where there is
  none the root's first level.
-/
import TelemetryControl.LoggerTree
import TelemetryControl.Notice
import TelemetryControl.Overrides

namespace TelemetryControl

/-- The overrides of a process and what is needed to take them back. -/
structure Registry where
  /-- The loggers known at creation with the levels then in force. -/
  available : NameTable Severity
  /-- The level of the root at creation. -/
  rootLevel : Severity
  /-- The own level each logger had before its first override. -/
  baseline : NameTable (Option Severity)
  overrides : Overrides
deriving DecidableEq, Repr, Inhabited

/-- The counts and faults of one apply. -/
structure ApplyOutcome where
  active : Nat
  sampling : Nat
  restored : Nat
  /-- One fault per entry that was not applied. -/
  skipped : List Fault
deriving DecidableEq, Repr, Inhabited

/-- What an apply leaves: the registry, the loggers, and its account. -/
structure Applied (β : Type) where
  registry : Registry
  backend : β
  outcome : ApplyOutcome
  notices : List Notice

namespace Registry

variable {β : Type} [LoggerBackend β]

/-- A registry over the loggers that are known now. -/
def create (b : β) : Registry :=
  let available := NameTable.ofList (LoggerBackend.loggers b)
  ⟨available,
    (available.get? LoggerName.root).getD (LoggerBackend.effective b LoggerName.root),
    .empty, .empty⟩

/-- The report of a registry's creation. -/
def created (r : Registry) : Notice :=
  .registryCreated r.available.size r.rootLevel

/-! ## 1. Entries -/

/-- The logger and threshold that an entry asks for. The level is judged before
the logger. -/
def resolveEntry (r : Registry) (e : LevelEntry) : Except Fault (String × Severity) :=
  match Severity.parse e.level with
  | .error f => .error f
  | .ok s =>
    let name := LoggerName.normalize e.logger
    if r.available.contains name then .ok (name, s) else .error (.unknownLogger e.logger)

/-- The entries that hold up, in order. -/
def accepted (r : Registry) (entries : List LevelEntry) : List (String × Severity) :=
  entries.filterMap (fun e => (r.resolveEntry e).toOption)

/-- The fault of an entry that does not hold up. -/
def entryFault? (r : Registry) (e : LevelEntry) : Option Fault :=
  match r.resolveEntry e with
  | .ok _ => none
  | .error f => some f

/-- The faults of the entries that do not hold up, in order. -/
def rejected (r : Registry) (entries : List LevelEntry) : List Fault :=
  entries.filterMap r.entryFault?

/-! ## 2. Installing and restoring -/

/-- The level that no override of a logger may exceed: its captured own level,
or what was in force for it at creation. -/
def ceiling (r : Registry) (baseline : NameTable (Option Severity)) (name : String) : Severity :=
  ((baseline.get? name).join.or (r.available.get? name)).getD r.rootLevel

/-- Captures the baseline of a logger if that was not done yet, and installs the
lesser of its ceiling and the threshold asked for. -/
def install (r : Registry) (s : NameTable (Option Severity) × β) (ask : String × Severity) :
    NameTable (Option Severity) × β :=
  let baseline := s.1.insertIfNew ask.1 (LoggerBackend.native? s.2 ask.1).join
  (baseline, LoggerBackend.setNative s.2 ask.1 (some (min (r.ceiling baseline ask.1) ask.2)))

/-- Installs a list of thresholds in order. -/
def installAll (r : Registry) (b : β) (asks : List (String × Severity)) :
    NameTable (Option Severity) × β :=
  asks.foldl r.install (r.baseline, b)

/-- Gives a logger its baseline back, if one was captured. -/
def restore (baseline : NameTable (Option Severity)) (b : β) (name : String) : β :=
  match baseline.get? name with
  | some level => LoggerBackend.setNative b name level
  | none => b

/-- The loggers overridden so far that a new table leaves out, in ascending
order. -/
def dropped (r : Registry) (active : NameTable Severity) : List String :=
  r.overrides.active.names.filter (fun n => !active.contains n)

/-! ## 3. Applying a snapshot -/

/-- What is reported of the entries for native levels. -/
def installNotices (r : Registry) (baseline : NameTable (Option Severity))
    (entries : List LevelEntry) : List Notice :=
  entries.map (fun e =>
    match r.resolveEntry e with
    | .ok (name, s) => .levelInstalled name s (min (r.ceiling baseline name) s)
    | .error f => .entrySkipped .logLevels e f)

/-- What is reported of the entries for sampling thresholds. -/
def samplingNotices (r : Registry) (entries : List LevelEntry) : List Notice :=
  entries.filterMap (fun e => (r.entryFault? e).map (.entrySkipped .samplingLogLevels e))

/-- Lays the overrides of a snapshot over the loggers in place of those of the
snapshot before. -/
def apply (r : Registry) (b : β) (snapshot : Snapshot) : Applied β :=
  let asks := r.accepted snapshot.logLevels
  let active := NameTable.ofList asks
  let sampling := NameTable.ofList (r.accepted snapshot.samplingLogLevels)
  let (baseline, installed) := r.installAll b asks
  let restored := (r.dropped active).filter baseline.contains
  { registry := { r with baseline := baseline, overrides := ⟨active, sampling⟩ }
    backend := restored.foldl (restore baseline) installed
    outcome :=
      ⟨active.size, sampling.size, restored.length,
        r.rejected snapshot.logLevels ++ r.rejected snapshot.samplingLogLevels⟩
    notices :=
      r.installNotices baseline snapshot.logLevels ++
        restored.map (fun n => .levelRestored n (baseline.get? n).join) ++
        r.samplingNotices snapshot.samplingLogLevels }

/-! ## 4. Decisions -/

/-- What the override tables say of a logger. -/
def decision (r : Registry) (name : String) : Decision :=
  r.overrides.decision name

/-- The filter before local sinks: the threshold asked for, or the root's first
level where there is none. -/
def permits (r : Registry) (name : String) (s : Severity) : Bool :=
  decide ((Overrides.effective r.overrides.active name).getD r.rootLevel ≤ s)

end Registry

end TelemetryControl
