/-
TelemetryControl.Proofs.Check.Prediction — what a check says of the cycle to come.

The check of a snapshot file and the agent that reads the file judge the entries
apart from each other. Both read the level of an entry first, so an entry is
refused for its level by both or by neither, and only an entry whose level is
good can be refused for its logger, which the check does not know. Taken entry
by entry (`entryFault?_eq`) this gives the lists of a whole table
(`rejected_filter_known`, `rejected_filter_unknown`), and with the ratio those
of a snapshot (`refused_filter_known`, `refused_filter_unknown`).

The main result is `ofFile_predicts_cycle`: what the check reports of a file is
what a cycle on that file skips, the unknown loggers left out, and where the
check cannot read the file the cycle fails for the same reason.
-/
import TelemetryControl.Check
import TelemetryControl.Control
import TelemetryControl.Source
import Mathlib.Data.List.Basic

namespace TelemetryControl

/-- Whether a fault is that of a logger that was never registered. -/
def Fault.isUnknownLogger : Fault → Bool
  | .unknownLogger _ => true
  | _ => false

/-- The fault of an entry whose level names no severity. -/
def LevelEntry.levelFault? (e : LevelEntry) : Option Fault :=
  match Severity.parse e.level with
  | .ok _ => none
  | .error f => some f

/-- The control with its payloads from a source. -/
def Control.fedFrom (c : Control) (s : Source) : Control :=
  { c with format := s.format, layout := s.layout }

/-! ## 1. One entry -/

/-- The only fault of a level text. -/
theorem Severity.eq_of_parse_eq_error {text : String} {f : Fault}
    (h : Severity.parse text = .error f) : f = .unknownSeverity text := by
  unfold Severity.parse at h
  split at h
  · cases h
  · cases h
    rfl

theorem LevelEntry.not_isUnknownLogger {e : LevelEntry} {f : Fault}
    (h : e.levelFault? = some f) : f.isUnknownLogger = false := by
  unfold levelFault? at h
  split at h
  · cases h
  · next bad =>
    cases h
    rw [Severity.eq_of_parse_eq_error bad]
    rfl

namespace Registry

variable (r : Registry)

/-- Whether an entry is refused for its logger alone. -/
def isStranger (e : LevelEntry) : Bool :=
  e.levelFault?.isNone && !r.available.contains (LoggerName.normalize e.logger)

/-- An entry is refused for its level, or else for its logger. -/
theorem entryFault?_eq (e : LevelEntry) :
    r.entryFault? e =
      e.levelFault?.or (if r.isStranger e then some (.unknownLogger e.logger) else none) := by
  unfold entryFault? resolveEntry isStranger LevelEntry.levelFault?
  cases Severity.parse e.level with
  | error f => rfl
  | ok s => cases h : r.available.contains (LoggerName.normalize e.logger) <;> simp [h]

theorem filter_entryFault?_known (e : LevelEntry) :
    (r.entryFault? e).filter (fun f => !f.isUnknownLogger) = e.levelFault? := by
  rw [entryFault?_eq]
  cases level : e.levelFault? with
  | some f => simp [LevelEntry.not_isUnknownLogger level]
  | none => cases r.isStranger e <;> simp [Fault.isUnknownLogger]

theorem filter_entryFault?_unknown (e : LevelEntry) :
    (r.entryFault? e).filter Fault.isUnknownLogger =
      if r.isStranger e then some (.unknownLogger e.logger) else none := by
  rw [entryFault?_eq]
  cases level : e.levelFault? with
  | some f => simp [LevelEntry.not_isUnknownLogger level, isStranger, level]
  | none => cases r.isStranger e <;> simp [Fault.isUnknownLogger]

/-! ## 2. One table -/

/-- Of what is refused in a table the bad levels are found without the loggers. -/
theorem rejected_filter_known (entries : List LevelEntry) :
    (r.rejected entries).filter (fun f => !f.isUnknownLogger) =
      entries.filterMap LevelEntry.levelFault? := by
  unfold rejected
  rw [List.filter_filterMap]
  exact List.filterMap_congr (fun e _ => r.filter_entryFault?_known e)

/-- The rest has a good level and a logger that is not there. -/
theorem rejected_filter_unknown (entries : List LevelEntry) :
    (r.rejected entries).filter Fault.isUnknownLogger =
      (entries.filter r.isStranger).map (fun e => .unknownLogger e.logger) := by
  unfold rejected
  rw [List.filter_filterMap, ← List.filterMap_eq_map, List.filterMap_filter]
  exact List.filterMap_congr (fun e _ => r.filter_entryFault?_unknown e)

end Registry

namespace Snapshot

/-- A payload has one way of being no snapshot. -/
theorem eq_of_parse_eq_error {format : PayloadFormat} {payload : List UInt8} {f : Fault}
    (h : parse format payload = .error f) : f = malformed format := by
  unfold parse at h
  split at h
  · cases h
  · split at h
    · cases h
    · cases h
      rfl

theorem faults_levelProblems (table : EntryTable) (entries : List LevelEntry) :
    (levelProblems table entries).map SnapshotProblem.fault =
      entries.filterMap LevelEntry.levelFault? := by
  unfold levelProblems
  rw [List.map_filterMap]
  refine List.filterMap_congr (fun e _ => ?_)
  unfold LevelEntry.levelFault?
  cases Severity.parse e.level <;> rfl

/-- A ratio is refused by the check as the sampler refuses it, whatever ratio the
sampler is at. -/
theorem faults_ratioProblems (s : Snapshot) (sampler : Sampler) :
    s.ratioProblems.map SnapshotProblem.fault =
      (Control.commitRatio sampler s.sampleRatio).2.toList := by
  unfold ratioProblems Control.commitRatio
  cases s.sampleRatio with
  | none => rfl
  | some ratio =>
    simp only [Sampler.setRatio]
    cases Sampler.new ratio <;> rfl

end Snapshot

/-! ## 3. One cycle -/

/-- What is refused of a snapshot: the entries of both tables, then the ratio. -/
def Control.refused (c : Control) (s : Snapshot) : List Fault :=
  c.pipeline.registry.rejected s.logLevels ++ c.pipeline.registry.rejected s.samplingLogLevels ++
    (commitRatio c.sampler s.sampleRatio).2.toList

namespace Control

variable (c : Control)

/-- A commit skips what is refused. -/
theorem result_commit (s : Snapshot) :
    ∃ outcome, (c.commit s).result = .ok outcome ∧ outcome.skipped = c.refused s :=
  ⟨_, rfl, rfl⟩

/-- A ratio is never refused for a logger. -/
theorem not_isUnknownLogger_of_commitRatio {f : Fault} {sampler : Sampler}
    {ratio : Option Binary64} (h : f ∈ (commitRatio sampler ratio).2.toList) :
    f.isUnknownLogger = false := by
  cases ratio with
  | none => simp [commitRatio] at h
  | some ratio =>
    by_cases inside : ratio.InUnitInterval
    · simp [commitRatio, Sampler.setRatio, Sampler.new, inside] at h
    · simp [commitRatio, Sampler.setRatio, Sampler.new, inside] at h
      subst h
      rfl

/-- What the check lists of a snapshot is refused by every control. -/
theorem refused_filter_known (s : Snapshot) :
    (c.refused s).filter (fun f => !f.isUnknownLogger) =
      s.problems.map SnapshotProblem.fault := by
  have ratio : (commitRatio c.sampler s.sampleRatio).2.toList.filter (fun f => !f.isUnknownLogger) =
      (commitRatio c.sampler s.sampleRatio).2.toList := by
    refine List.filter_eq_self.mpr (fun f refused => ?_)
    simp [not_isUnknownLogger_of_commitRatio refused]
  unfold refused Snapshot.problems
  simp only [List.filter_append, List.map_append, Registry.rejected_filter_known,
    Snapshot.faults_levelProblems, s.faults_ratioProblems c.sampler, ratio]

/-- What is refused besides is an entry with a good level for a logger that is not
there. -/
theorem refused_filter_unknown (s : Snapshot) :
    (c.refused s).filter Fault.isUnknownLogger =
      ((s.logLevels ++ s.samplingLogLevels).filter c.pipeline.registry.isStranger).map
        (fun e => .unknownLogger e.logger) := by
  have ratio : (commitRatio c.sampler s.sampleRatio).2.toList.filter Fault.isUnknownLogger = [] := by
    refine List.filter_eq_nil_iff.mpr (fun f refused => ?_)
    simp [not_isUnknownLogger_of_commitRatio refused]
  unfold refused
  simp only [List.filter_append, List.map_append, Registry.rejected_filter_unknown, ratio,
    List.append_nil]

/-- A cycle on a payload of one snapshot reads it as the check does. -/
theorem result_finish_single (payload : List UInt8) (single : c.layout = .single) :
    (c.finish (.ok payload)).result =
      match Snapshot.parse c.format payload with
      | .ok s => (c.commit s).result
      | .error f => .error f := by
  simp only [finish, Snapshot.decode, single]
  cases Snapshot.parse c.format payload <;> rfl

end Control

/-! ## 4. The check and the cycle -/

namespace Check

/-- The check of a snapshot fails when it has a problem to report. -/
theorem isSome_fault_ofSnapshot (path : String) (s : Snapshot) :
    (ofSnapshot path s).fault.isSome = true ↔ s.problems.map SnapshotProblem.fault ≠ [] := by
  unfold ofSnapshot
  cases s.problems <;> simp

/-- **The check predicts the agent.** Take any file and any control that is fed from
it. If the file cannot be read, both fail. If its content is no snapshot in the
format of its name, both fail with the same fault: the same octets go to the same
parser, so they fail alike in whatever words the parser has for it. Otherwise the
cycle succeeds; the faults that the check reports are, in order, those of what the
cycle skips, the unknown loggers left out, and the check fails when there are
any. What the cycle skips besides are the entries with a good level for a
logger that the agent does not have. -/
theorem ofFile_predicts_cycle (d : Directory) (path : String) (control : Control) :
    let check := ofFile d path
    let c := control.fedFrom (.file path)
    let cycle := c.finish ((Source.file path).fetch d)
    match d.read path with
    | .error f =>
      check = .failed (.unreadable f) ∧
        cycle.result = .error (.transport (path ++ ": " ++ f.message))
    | .ok content =>
      match Snapshot.parse (.ofPath path) content with
      | .error f =>
        f = Snapshot.malformed (.ofPath path) ∧ check = .failed (.malformed f) ∧
          cycle.result = .error f
      | .ok s =>
        check.reports = s.problems.map SnapshotProblem.line ∧
        ∃ outcome, cycle.result = .ok outcome ∧
          s.problems.map SnapshotProblem.fault =
            outcome.skipped.filter (fun f => !f.isUnknownLogger) ∧
          (check.fault.isSome = true ↔
            outcome.skipped.filter (fun f => !f.isUnknownLogger) ≠ []) ∧
          outcome.skipped.filter Fault.isUnknownLogger =
            ((s.logLevels ++ s.samplingLogLevels).filter c.pipeline.registry.isStranger).map
              (fun e => .unknownLogger e.logger) := by
  intro check c cycle
  have format : c.format = .ofPath path := rfl
  have single : c.layout = .single := rfl
  cases there : d.read path with
  | error f =>
    have fetched : (Source.file path).fetch d = .error (.transport (path ++ ": " ++ f.message)) := by
      simp only [Source.fetch, Source.readFile, there]
    refine ⟨?_, ?_⟩
    · simp only [check, ofFile, there]
    · simp only [cycle, fetched]
      rfl
  | ok content =>
    have fetched : (Source.file path).fetch d = .ok content := by
      simp only [Source.fetch, Source.readFile, there]
    have checked : check = ofContent path content := by
      simp only [check, ofFile, there]
    have result := c.result_finish_single content single
    rw [format] at result
    dsimp only
    cases parsed : Snapshot.parse (.ofPath path) content with
    | error f =>
      refine ⟨Snapshot.eq_of_parse_eq_error parsed, ?_, ?_⟩
      · simp only [checked, ofContent, parsed]
      · simp only [cycle, fetched, result, parsed]
    | ok s =>
      obtain ⟨outcome, committed, skipped⟩ := c.result_commit s
      have verdict : check = ofSnapshot path s := by
        rw [checked]
        simp only [ofContent, parsed]
      have known := c.refused_filter_known s
      refine ⟨by rw [verdict]; rfl, outcome, ?_, ?_, ?_, ?_⟩
      · simp only [cycle, fetched, result, parsed, committed]
      · rw [skipped, known]
      · rw [skipped, known, verdict]
        exact isSome_fault_ofSnapshot path s
      · rw [skipped]
        exact c.refused_filter_unknown s

end Check

end TelemetryControl
