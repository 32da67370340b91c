/-
TelemetryControl.Proofs.Gate.Sampling — what sampling thresholds can touch.

Sampling thresholds are read, checked, resolved and published like the
thresholds for native levels, from the same snapshot and in the same apply.
Nothing but the export of records of unsampled traces may depend on them.

The proof compares a run with the same run after all sampling thresholds were
struck out, from the table of the registry and from every snapshot
(`levelsOnly`). One apply comes to the same either way (`levelsOnly_apply`), so
every run does (`levelsOnly_run`), and two runs that ask for the same native
levels are one and the same once their sampling thresholds are struck out.
-/
import TelemetryControl.Proofs.Gate.Sinks

namespace TelemetryControl

/-! ## 1. Without sampling thresholds -/

/-- The part of a snapshot that asks for native levels. -/
def Snapshot.levelsOnly (s : Snapshot) : Snapshot :=
  ⟨s.logLevels, [], none, none⟩

namespace Registry

/-- The registry with an empty sampling table. -/
def levelsOnly (r : Registry) : Registry :=
  { r with overrides := ⟨r.overrides.active, .empty⟩ }

variable (r : Registry)

theorem accepted_levelsOnly (entries : List LevelEntry) :
    r.levelsOnly.accepted entries = r.accepted entries := by
  -- Seen through the thresholds that entries ask for, only the available loggers count.
  simp only [accepted, toOption_resolveEntry]
  rfl

theorem installAll_levelsOnly (t : LoggerTree) (asks : List (String × Severity)) :
    r.levelsOnly.installAll t asks = r.installAll t asks := rfl

theorem dropped_levelsOnly (active : NameTable Severity) :
    r.levelsOnly.dropped active = r.dropped active := rfl

variable (t : LoggerTree) (s : Snapshot)

/-- The registry that an apply leaves is the same but for its sampling table. -/
theorem registry_apply_levelsOnly :
    (r.levelsOnly.apply t s.levelsOnly).registry = (r.apply t s).registry.levelsOnly := by
  simp only [apply, accepted_levelsOnly, installAll_levelsOnly, Snapshot.levelsOnly]
  rfl

/-- The tree that an apply leaves is the same. -/
theorem backend_apply_levelsOnly :
    (r.levelsOnly.apply t s.levelsOnly).backend = (r.apply t s).backend := by
  simp only [apply, accepted_levelsOnly, installAll_levelsOnly, dropped_levelsOnly,
    Snapshot.levelsOnly]

end Registry

namespace Pipeline

/-- The pipeline with an empty sampling table. -/
def levelsOnly (p : Pipeline) : Pipeline :=
  { p with registry := p.registry.levelsOnly }

/-- Applying a snapshot and striking sampling thresholds out commute. -/
theorem levelsOnly_apply (p : Pipeline) (s : Snapshot) :
    (p.apply s).levelsOnly = p.levelsOnly.apply s.levelsOnly := by
  simp only [apply, levelsOnly, Registry.registry_apply_levelsOnly,
    Registry.backend_apply_levelsOnly]

/-- What a run leaves beside the sampling table is what it leaves without sampling
thresholds. -/
theorem levelsOnly_run (p : Pipeline) (history : List Snapshot) :
    (p.run history).levelsOnly = p.levelsOnly.run (history.map Snapshot.levelsOnly) := by
  induction history using List.reverseRecOn with
  | nil => rfl
  | append_singleton history s ih =>
    rw [List.map_append, List.map_singleton, run_concat, run_concat, levelsOnly_apply, ih]

/-- Runs that ask for the same native levels, snapshot by snapshot, differ in their
sampling tables at most. -/
theorem levelsOnly_run_eq (p : Pipeline) {history history' : List Snapshot}
    (same : history.map Snapshot.logLevels = history'.map Snapshot.logLevels) :
    (p.run history).levelsOnly = (p.run history').levelsOnly := by
  have parts (history : List Snapshot) : history.map Snapshot.levelsOnly =
      (history.map Snapshot.logLevels).map (fun levels => ⟨levels, [], none, none⟩) := by
    rw [List.map_map]
    rfl
  rw [levelsOnly_run, levelsOnly_run, parts, parts, same]

/-! ## 2. What does not look at the sampling table -/

section Observed

variable (p : Pipeline) (name : String) (s : Severity)

theorem accepts_levelsOnly (sink : SinkKind) :
    p.levelsOnly.accepts name s sink = p.accepts name s sink := by
  cases filter : p.filter <;> cases sink <;>
    simp [accepts, LoggerTree.accepts, passesFilter, LocalFilter.permits, levelsOnly, filter,
      Registry.permits, Registry.levelsOnly]

theorem admits_levelsOnly : p.levelsOnly.admits name s true = p.admits name s true := by
  rw [Bool.eq_iff_iff, admits, admits, Decision.admits_sampled_iff, Decision.admits_sampled_iff]
  rfl

/-- An unsampled trace exports what a sampled one does and is above the sampling
threshold of the logger. -/
theorem exports_unsampled_iff :
    p.exports name s false = true ↔ p.exports name s true = true ∧
      ∀ held ∈ (p.registry.decision name).samplingSeverity, ¬ s ≤ held := by
  rw [exports, exports, Bool.and_eq_true, Bool.and_eq_true, and_assoc]
  exact and_congr_right (fun _ => Decision.admits_unsampled_iff)

/-- So a record that fares differently in an unsampled trace is held back there, and
is not above that threshold. -/
theorem held_back_of_exports_ne (differs : p.exports name s false ≠ p.exports name s true) :
    p.exports name s true = true ∧
      ∃ held ∈ (p.registry.decision name).samplingSeverity, s ≤ held := by
  rw [Ne, Bool.eq_iff_iff, exports_unsampled_iff] at differs
  have exported : p.exports name s true = true := by
    by_contra kept
    exact differs ⟨And.left, fun exported => absurd exported kept⟩
  refine ⟨exported, ?_⟩
  by_contra above
  exact differs ⟨And.left, fun _ => ⟨exported, fun held resolved below =>
    above ⟨held, resolved, below⟩⟩⟩

end Observed

/-- **Sampling thresholds hold back unsampled exports and do nothing else.** Let two
runs on one tree ask for the same native levels, snapshot by snapshot, and for
any sampling thresholds. They leave the same levels, baselines and active
overrides, and agree on what reaches local sinks and on what is exported from
sampled traces. In either run a record that fares differently in an
unsampled trace is one that a sampled trace exports, at or below the sampling
threshold resolved for its logger. -/
theorem sampling_holds_back_unsampled_only (t : LoggerTree) {history history' : List Snapshot}
    (same : history.map Snapshot.logLevels = history'.map Snapshot.logLevels) :
    let p := (create t).run history
    let p' := (create t).run history'
    (p.tree = p'.tree ∧ p.registry.baseline = p'.registry.baseline ∧
      p.registry.overrides.active = p'.registry.overrides.active) ∧
    (∀ name s, p.accepts name s .localSink = p'.accepts name s .localSink ∧
      p.accepts name s .exportSink = p'.accepts name s .exportSink ∧
      p.admits name s true = p'.admits name s true) ∧
    (∀ q ∈ [p, p'], ∀ name s, q.exports name s false ≠ q.exports name s true →
      q.exports name s true = true ∧
        ∃ held ∈ (q.registry.decision name).samplingSeverity, s ≤ held) := by
  intro p p'
  have struck : p.levelsOnly = p'.levelsOnly := levelsOnly_run_eq (create t) same
  have accepted (name : String) (s : Severity) (sink : SinkKind) :
      p.accepts name s sink = p'.accepts name s sink := by
    rw [← accepts_levelsOnly p, struck, accepts_levelsOnly]
  have admitted (name : String) (s : Severity) :
      p.admits name s true = p'.admits name s true := by
    rw [← admits_levelsOnly p, struck, admits_levelsOnly]
  refine ⟨⟨?tree, ?baseline, ?active⟩, ?sinks, fun q _ name s => q.held_back_of_exports_ne name s⟩
  case tree => exact congrArg (fun q => q.tree) struck
  case baseline => exact congrArg (fun q => q.registry.baseline) struck
  case active => exact congrArg (fun q => q.registry.overrides.active) struck
  case sinks => exact fun name s => ⟨accepted name s _, accepted name s _, admitted name s⟩

/-- The first run holds a logger back up to `error`, and the second one up to
`info`. -/
theorem sampling_holds_back_unsampled_only_below_root :
    let t := LoggerTree.built .debug [.register "shop.cart" (some .warn)]
    let history : List Snapshot :=
      [⟨[⟨"shop", "TRACE"⟩], [⟨"shop.cart", "WARN"⟩], none, none⟩,
        ⟨[⟨"shop.cart", "DEBUG"⟩, ⟨"nowhere", "INFO"⟩], [⟨"ROOT", "ERROR"⟩], none, none⟩]
    let history' : List Snapshot :=
      [⟨[⟨"shop", "TRACE"⟩], [], none, none⟩,
        ⟨[⟨"shop.cart", "DEBUG"⟩, ⟨"nowhere", "INFO"⟩], [⟨"shop", "LOUD"⟩, ⟨"shop", "INFO"⟩],
          none, none⟩]
    (history.map Snapshot.logLevels = history'.map Snapshot.logLevels ∧
      ((create t).run history).exports "shop.cart" .warn false ≠
        ((create t).run history).exports "shop.cart" .warn true) ∧
    ((create t).run history).tree = ((create t).run history').tree ∧
    (∀ s, ((create t).run history).accepts "shop.cart" s .localSink =
      ((create t).run history').accepts "shop.cart" s .localSink) ∧
    ∃ held ∈ (((create t).run history).registry.decision "shop.cart").samplingSeverity,
      .warn ≤ held := by
  intro t history history'
  have same : history.map Snapshot.logLevels = history'.map Snapshot.logLevels := rfl
  have differs : ((create t).run history).exports "shop.cart" .warn false ≠
      ((create t).run history).exports "shop.cart" .warn true := by decide
  obtain ⟨⟨tree, -⟩, sinks, unsampled⟩ := sampling_holds_back_unsampled_only t same
  exact ⟨⟨same, differs⟩, tree, fun s => (sinks "shop.cart" s).1,
    (unsampled _ List.mem_cons_self "shop.cart" .warn differs).2⟩

end Pipeline

end TelemetryControl
