/-
TelemetryControl.Proofs.Registry.Account — the account that an apply gives.

The outcome of an apply counts the overrides in force and the loggers restored,
and lists a fault for every entry that was skipped. Here each of these is said
of the snapshot as it was written: counts are counts of different names, and
faults are those of the entries that do not hold up, in the order of the
entries.

All of it rests on one case distinction (`resolveEntry_cases`): an entry holds up
and asks for a threshold, or it does not and has its fault. So the entries that
do not hold up can be struck from a snapshot without any effect but on the
list of faults (`apply_acceptedOnly`). The main result is `apply_accounts`.
-/
import TelemetryControl.Proofs.Registry.Baseline

namespace TelemetryControl

/-! ## 1. Entries that hold up -/

namespace LevelEntry

/-- The level of the entry can be read, and its logger is available. -/
def Accepted (available : NameTable Severity) (e : LevelEntry) : Prop :=
  (Severity.ofText? e.level).isSome = true ∧
    available.contains (LoggerName.normalize e.logger) = true

instance (available : NameTable Severity) (e : LevelEntry) : Decidable (e.Accepted available) :=
  inferInstanceAs (Decidable (_ ∧ _))

/-- What is wrong with an entry that does not hold up: its level if that cannot be
read, whatever the logger, and else its logger, each as written. -/
def fault (e : LevelEntry) : Fault :=
  if Severity.ofText? e.level = none then .unknownSeverity e.level else .unknownLogger e.logger

end LevelEntry

/-- The loggers that the accepted ones of some entries mean, one for each entry. -/
def acceptedNames (available : NameTable Severity) (entries : List LevelEntry) : List String :=
  (entries.filter (LevelEntry.Accepted available)).map (fun e => LoggerName.normalize e.logger)

/-- The snapshot without the entries that do not hold up. -/
def Snapshot.acceptedOnly (s : Snapshot) (available : NameTable Severity) : Snapshot :=
  { s with
    logLevels := s.logLevels.filter (LevelEntry.Accepted available)
    samplingLogLevels := s.samplingLogLevels.filter (LevelEntry.Accepted available) }

/-- Whether a report is that of a skipped entry. -/
def Notice.isEntrySkipped : Notice → Bool
  | .entrySkipped _ _ _ => true
  | _ => false

namespace Registry

variable (r : Registry)

/-- An entry holds up and asks for its level, or it does not and has its fault. -/
theorem resolveEntry_cases (e : LevelEntry) :
    (e.Accepted r.available ∧ ∃ s, r.resolveEntry e = .ok (LoggerName.normalize e.logger, s)) ∨
    (¬ e.Accepted r.available ∧ r.resolveEntry e = .error e.fault) := by
  unfold resolveEntry Severity.parse LevelEntry.Accepted LevelEntry.fault
  cases level : Severity.ofText? e.level with
  | none => simp
  | some s => cases known : r.available.contains (LoggerName.normalize e.logger) <;> simp [known]

theorem resolveEntry_of_accepted {e : LevelEntry} (h : e.Accepted r.available) :
    ∃ s, r.resolveEntry e = .ok (LoggerName.normalize e.logger, s) := by
  rcases r.resolveEntry_cases e with ⟨-, resolved⟩ | ⟨rejected, -⟩
  · exact resolved
  · exact absurd h rejected

theorem resolveEntry_of_not_accepted {e : LevelEntry} (h : ¬ e.Accepted r.available) :
    r.resolveEntry e = .error e.fault := by
  rcases r.resolveEntry_cases e with ⟨accepted, -⟩ | ⟨-, rejected⟩
  · exact absurd accepted h
  · exact rejected

theorem entryFault?_eq_ite (e : LevelEntry) :
    r.entryFault? e = if e.Accepted r.available then none else some e.fault := by
  unfold entryFault?
  by_cases accepted : e.Accepted r.available
  · obtain ⟨s, holds⟩ := r.resolveEntry_of_accepted accepted
    rw [if_pos accepted, holds]
  · rw [if_neg accepted, r.resolveEntry_of_not_accepted accepted]

/-! ## 2. Lists of entries -/

variable (entries : List LevelEntry)

/-- What the accepted entries ask for is asked of the loggers that they mean. -/
theorem map_fst_accepted :
    (r.accepted entries).map Prod.fst = acceptedNames r.available entries := by
  unfold accepted acceptedNames
  rw [List.map_filterMap, ← List.filterMap_eq_map, List.filterMap_filter]
  refine List.filterMap_congr (fun e _ => ?_)
  by_cases accepted : e.Accepted r.available
  · obtain ⟨s, holds⟩ := r.resolveEntry_of_accepted accepted
    simp [holds, accepted, Except.toOption]
  · simp [r.resolveEntry_of_not_accepted accepted, accepted, Except.toOption]

/-- The entries that do not hold up ask for nothing. -/
theorem accepted_filter_accepted :
    r.accepted (entries.filter (LevelEntry.Accepted r.available)) = r.accepted entries := by
  unfold accepted
  rw [List.filterMap_filter]
  refine List.filterMap_congr (fun e _ => ?_)
  by_cases accepted : e.Accepted r.available
  · simp [accepted]
  · simp [accepted, r.resolveEntry_of_not_accepted accepted, Except.toOption]

/-- One fault for each entry that does not hold up, in order. -/
theorem rejected_eq :
    r.rejected entries =
      (entries.filter (fun e => ¬ e.Accepted r.available)).map LevelEntry.fault := by
  unfold rejected
  rw [← List.filterMap_eq_map, List.filterMap_filter]
  refine List.filterMap_congr (fun e _ => ?_)
  by_cases accepted : e.Accepted r.available <;> simp [entryFault?_eq_ite, accepted]

/-- Once they are struck out there is nothing to fault. -/
theorem rejected_filter_accepted :
    r.rejected (entries.filter (LevelEntry.Accepted r.available)) = [] := by
  rw [rejected_eq, List.map_eq_nil_iff, List.filter_filter, List.filter_eq_nil_iff]
  simp

theorem installNotices_filter_accepted (baseline : NameTable (Option Severity)) :
    r.installNotices baseline (entries.filter (LevelEntry.Accepted r.available)) =
      (r.installNotices baseline entries).filter (fun n => !n.isEntrySkipped) := by
  unfold installNotices
  rw [List.filter_map]
  refine congrArg (List.map _) (List.filter_congr (fun e _ => ?_))
  by_cases accepted : e.Accepted r.available
  · obtain ⟨s, holds⟩ := r.resolveEntry_of_accepted accepted
    simp [accepted, holds, Notice.isEntrySkipped]
  · simp [accepted, r.resolveEntry_of_not_accepted accepted, Notice.isEntrySkipped]

/-- Of sampling thresholds nothing is reported but faults. -/
theorem samplingNotices_filter_eq_nil :
    (r.samplingNotices entries).filter (fun n => !n.isEntrySkipped) = [] := by
  unfold samplingNotices
  rw [List.filter_eq_nil_iff]
  intro n reported
  obtain ⟨e, -, he⟩ := List.mem_filterMap.mp reported
  obtain ⟨f, -, rfl⟩ := Option.map_eq_some_iff.mp he
  simp [Notice.isEntrySkipped]

theorem samplingNotices_filter_accepted :
    r.samplingNotices (entries.filter (LevelEntry.Accepted r.available)) = [] := by
  unfold samplingNotices
  rw [List.filterMap_eq_nil_iff]
  intro e listed
  have accepted : e.Accepted r.available := by simpa using (List.mem_filter.mp listed).2
  simp [entryFault?_eq_ite, accepted]

/-! ## 3. The account -/

section Apply

variable {β : Type} [LoggerBackend β] (b : β) (s : Snapshot)

/-- **Entries that do not hold up touch no other.** Without them an apply leaves the
same registry and the same loggers, and gives the same account and the same
reports but for those of the entries themselves. -/
theorem apply_acceptedOnly :
    (r.apply b (s.acceptedOnly r.available)).registry = (r.apply b s).registry ∧
    (r.apply b (s.acceptedOnly r.available)).backend = (r.apply b s).backend ∧
    (r.apply b (s.acceptedOnly r.available)).outcome =
      { (r.apply b s).outcome with skipped := [] } ∧
    (r.apply b (s.acceptedOnly r.available)).notices =
      (r.apply b s).notices.filter (fun n => !n.isEntrySkipped) := by
  simp only [apply, Snapshot.acceptedOnly, accepted_filter_accepted, rejected_filter_accepted,
    installNotices_filter_accepted, samplingNotices_filter_accepted, samplingNotices_filter_eq_nil,
    List.filter_append, List.append_nil, true_and, List.append_cancel_left_eq]
  refine (List.filter_eq_self.mpr ?_).symm
  intro n reported
  obtain ⟨name, -, rfl⟩ := List.mem_map.mp reported
  rfl

theorem active_outcome_apply :
    (r.apply b s).outcome.active = (acceptedNames r.available s.logLevels).toFinset.card := by
  show (NameTable.ofList (r.accepted s.logLevels)).size = _
  rw [NameTable.size_ofList, map_fst_accepted]

theorem sampling_outcome_apply :
    (r.apply b s).outcome.sampling =
      (acceptedNames r.available s.samplingLogLevels).toFinset.card := by
  show (NameTable.ofList (r.accepted s.samplingLogLevels)).size = _
  rw [NameTable.size_ofList, map_fst_accepted]

theorem skipped_outcome_apply :
    (r.apply b s).outcome.skipped =
      ((s.logLevels ++ s.samplingLogLevels).filter (fun e => ¬ e.Accepted r.available)).map
        LevelEntry.fault := by
  show r.rejected s.logLevels ++ r.rejected s.samplingLogLevels = _
  rw [rejected_eq, rejected_eq, List.filter_append, List.map_append]

/-- Where every override has its baseline, all that were dropped are restored. -/
theorem restored_outcome_apply (t : LoggerTree)
    (captured : ∀ name, r.overrides.active.contains name = true →
      r.baseline.contains name = true) :
    (r.apply t s).outcome.restored =
      (r.overrides.active.names.toFinset \
        (acceptedNames r.available s.logLevels).toFinset).card := by
  have restorable : (r.dropped (r.apply t s).registry.overrides.active).filter
      (r.apply t s).registry.baseline.contains =
        r.dropped (r.apply t s).registry.overrides.active := by
    refine List.filter_eq_self.mpr (fun name dropped => ?_)
    obtain ⟨active, -⟩ := (r.mem_dropped_iff name _).mp dropped
    obtain ⟨own, before⟩ := (NameTable.contains_iff _ _).mp (captured name active)
    refine (NameTable.contains_iff _ _).mpr ⟨own, ?_⟩
    rw [get?_baseline_apply, before, Option.some_or]
  have distinct : (r.dropped (r.apply t s).registry.overrides.active).Nodup :=
    r.overrides.active.nodup_names.filter _
  show ((r.dropped (r.apply t s).registry.overrides.active).filter
    (r.apply t s).registry.baseline.contains).length = _
  rw [restorable, ← List.toFinset_card_of_nodup distinct]
  congr 1
  ext name
  have asked : (r.apply t s).registry.overrides.active.contains name = true ↔
      name ∈ acceptedNames r.available s.logLevels := by
    rw [← map_fst_accepted]
    exact NameTable.contains_ofList_iff _ _
  rw [List.mem_toFinset, mem_dropped_iff, Finset.mem_sdiff, List.mem_toFinset, List.mem_toFinset,
    NameTable.mem_names_iff, ← asked, Bool.not_eq_true, NameTable.contains_eq_false_iff]

end Apply

end Registry

namespace Pipeline

/-- **An apply accounts for every entry and every removal.** Let anybody write to the
tree of a registry between its applies. The next apply then counts as many
overrides, and as many sampling thresholds, as there are different loggers
meant by the entries that hold up, and as many restored loggers as there were
overrides that are not asked for any more; all of these have a baseline to
be restored to. It lists one fault for each entry that does not hold up, in the
order of the entries, those for native levels first. Striking these entries
out changes nothing but the faults listed and reported. -/
theorem apply_accounts (t : LoggerTree) (changes : List Change) (s : Snapshot) :
    let available := (Registry.create t).available
    let p := (create t).after changes
    let applied := p.registry.apply p.tree s
    let accepted := p.registry.apply p.tree (s.acceptedOnly available)
    applied.outcome.active = (acceptedNames available s.logLevels).toFinset.card ∧
    applied.outcome.sampling = (acceptedNames available s.samplingLogLevels).toFinset.card ∧
    applied.outcome.restored =
      (p.registry.overrides.active.names.toFinset \
        (acceptedNames available s.logLevels).toFinset).card ∧
    (∀ name ∈ p.registry.overrides.active.names, p.registry.baseline.contains name = true) ∧
    applied.outcome.skipped =
      ((s.logLevels ++ s.samplingLogLevels).filter (fun e => ¬ e.Accepted available)).map
        LevelEntry.fault ∧
    accepted.registry = applied.registry ∧ accepted.backend = applied.backend ∧
    accepted.outcome = { applied.outcome with skipped := [] } ∧
    accepted.notices = applied.notices.filter (fun n => !n.isEntrySkipped) := by
  intro available p applied accepted
  have same : available = p.registry.available := (available_after (create t) changes).symm
  have captured : ∀ name, p.registry.overrides.active.contains name = true →
      p.registry.baseline.contains name = true := ((attached_create t).after changes).captured
  refine ⟨?active, ?sampling, ?restored, ?restorable, ?skipped, ?struck⟩
  case active => rw [same, p.registry.active_outcome_apply]
  case sampling => rw [same, p.registry.sampling_outcome_apply]
  case restored => rw [same, p.registry.restored_outcome_apply s p.tree captured]
  case restorable =>
    exact fun name overridden => captured name ((NameTable.mem_names_iff _ _).mp overridden)
  case skipped => rw [same, p.registry.skipped_outcome_apply]
  case struck =>
    simp only [accepted, same]
    exact p.registry.apply_acceptedOnly p.tree s

/-- Loggers are meant by several spellings, an entry is bad in two ways, and one of
the loggers to be restored was changed by somebody else in between. -/
theorem apply_accounts_for_spellings :
    let t := LoggerTree.built .info [.register "a.b" (some .warn), .register "c" none]
    let changes : List Change :=
      [.apply ⟨[⟨"a.b", "TRACE"⟩, ⟨"c", "DEBUG"⟩, ⟨"root", "WARN"⟩], [], none, none⟩,
        .edit (.setNative "c" none)]
    let s : Snapshot :=
      ⟨[⟨" a.b ", "error"⟩, ⟨"nowhere", "LOUD"⟩, ⟨"a.b", "INFO"⟩, ⟨" A.B", "INFO"⟩],
        [⟨"ROOT", "LOUD "⟩, ⟨"Root", "warn"⟩, ⟨"", "INFO"⟩], none, none⟩
    let outcome :=
      (((create t).after changes).registry.apply ((create t).after changes).tree s).outcome
    ("c" ∈ ((create t).after changes).registry.overrides.active.names ∧
      ((create t).after changes).registry.baseline.contains "c" = true) ∧
    outcome.active = 1 ∧ outcome.sampling = 1 ∧ outcome.restored = 2 ∧
    outcome.skipped =
      [.unknownSeverity "LOUD", .unknownLogger " A.B", .unknownSeverity "LOUD "] := by
  intro t changes s outcome
  have overridden : "c" ∈ ((create t).after changes).registry.overrides.active.names := by decide
  obtain ⟨active, sampling, restored, restorable, skipped, -⟩ := apply_accounts t changes s
  refine ⟨⟨overridden, restorable "c" overridden⟩, ?active, ?sampling, ?restored, ?skipped⟩
  case active => exact active.trans (by decide)
  case sampling => exact sampling.trans (by decide)
  case restored => exact restored.trans (by decide)
  case skipped => exact skipped.trans (by decide)

end Pipeline

end TelemetryControl
