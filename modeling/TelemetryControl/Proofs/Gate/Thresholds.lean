/-
TelemetryControl.Proofs.Gate.Thresholds — what passes once passes when louder.

Four thresholds stand between a record and a sink: the level in force for the
logger, the override asked for it, the first level of the root where none is
asked for, and the sampling threshold. Three of them are lower bounds. The
fourth one turns records away up to a bound, and only in unsampled traces,
so it is a lower bound as well once it is read the other way round
(`exports_iff`).

Hence the main statement (`passes_of_louder`): a record that reaches a sink
reaches it at any higher severity too, and in a sampled trace if it does in
an unsampled one.
-/
import TelemetryControl.Proofs.Gate.Sampling

namespace TelemetryControl

theorem Severity.le_error (s : Severity) : s ≤ .error := by
  cases s <;> decide

namespace Pipeline

/-- All that an export asks of a record: the level in force, the override asked
for, and in an unsampled trace to be above the sampling threshold. -/
theorem exports_iff (p : Pipeline) (name : String) (s : Severity) (sampled : Bool) :
    p.exports name s sampled = true ↔
      p.tree.effective name ≤ s ∧
      (∀ want ∈ Overrides.effective p.registry.overrides.active name, want ≤ s) ∧
      (sampled = false →
        ∀ held ∈ Overrides.effective p.registry.overrides.sampling name, ¬ s ≤ held) := by
  cases sampled with
  | true => simp [exports_sampled_iff]
  | false =>
    rw [exports_unsampled_iff, exports_sampled_iff, and_assoc]
    simp [Registry.decision, Overrides.decision]

/-- A record that is exported is exported at any higher severity, and from a sampled
trace if it is from an unsampled one. -/
theorem exports_of_louder (p : Pipeline) (name : String) {s s' : Severity} (louder : s ≤ s')
    {sampled sampled' : Bool} (kept : sampled ≤ sampled')
    (passed : p.exports name s sampled = true) : p.exports name s' sampled' = true := by
  obtain ⟨enabled, wanted, above⟩ := (p.exports_iff name s sampled).mp passed
  refine (p.exports_iff name s' sampled').mpr ⟨?enabled, ?wanted, ?above⟩
  case enabled => exact Severity.le_trans enabled louder
  case wanted =>
    intro want resolved
    exact Severity.le_trans (wanted want resolved) louder
  case above =>
    -- A trace that is unsampled now was unsampled before, so the record was above then.
    rintro rfl held resolved below
    exact above (Bool.eq_false_of_le_false kept) held resolved (Severity.le_trans louder below)

/-- On the console as well a record passes at any higher severity. -/
theorem Overlaid.consolePermits_of_louder {t : LoggerTree} {p : Pipeline} (h : Overlaid t p)
    (target : String) {s s' : Severity} (louder : s ≤ s')
    (passed : p.consolePermits target s = true) : p.consolePermits target s' = true := by
  obtain ⟨enabled, wanted⟩ := (h.consolePermits_iff target s).mp passed
  exact (h.consolePermits_iff target s').mpr
    ⟨Severity.le_trans enabled louder, Severity.le_trans wanted louder⟩

/-- **Louder records and sampled traces are never hidden.** After any run, an event
that the console shows is shown at any higher severity, and one that is
exported is exported at any higher severity and, if its trace was not sampled,
also when it is. At the top nothing is hidden at all: errors are shown, and
those of sampled traces exported, whatever was overridden. -/
theorem passes_of_louder (root : Severity) (edits : List LoggerTree.Edit)
    (history : List Snapshot) (target : String) {s s' : Severity} (louder : s ≤ s')
    {sampled sampled' : Bool} (kept : sampled ≤ sampled') :
    let p := (create (LoggerTree.built root edits)).run history
    (p.consolePermits target s = true → p.consolePermits target s' = true) ∧
    (p.exportPermits target s sampled = true → p.exportPermits target s' sampled' = true) ∧
    p.consolePermits target .error = true ∧ p.exportPermits target .error true = true := by
  intro p
  have h : Overlaid (LoggerTree.built root edits) p :=
    overlaid_run (LoggerTree.rooted_built root edits) history
  refine ⟨h.consolePermits_of_louder target louder, ?exported, ?shownAtTop, ?exportedAtTop⟩
  case exported => exact p.exports_of_louder (LoggerName.ofTarget target) louder kept
  case shownAtTop =>
    exact (h.consolePermits_iff target .error).mpr ⟨Severity.le_error _, Severity.le_error _⟩
  case exportedAtTop =>
    refine (p.exports_iff (LoggerName.ofTarget target) .error true).mpr
      ⟨Severity.le_error _, fun want _ => Severity.le_error want, ?_⟩
    intro unsampled
    cases unsampled

/-- One module is below an override and held back up to `info`: what passes at `info`
in a sampled trace does not in an unsampled one, and passes there at `warn`. -/
theorem passes_of_louder_above_sampling_threshold :
    let edits := [.register "shop" (some .debug), .register "shop.cart" none]
    let history : List Snapshot :=
      [⟨[⟨"ROOT", "TRACE"⟩], [], none, none⟩,
        ⟨[⟨"shop.cart", "INFO"⟩], [⟨"shop", "info"⟩], none, none⟩]
    let onConsole := ((create (LoggerTree.built .error edits)).run history).consolePermits
    let exported := ((create (LoggerTree.built .error edits)).run history).exportPermits
    (Severity.warn ≤ .error ∧ false ≤ true ∧ onConsole "shop::cart::item" .warn = true ∧
      exported "shop::cart::item" .warn false = true) ∧
    (exported "shop::cart::item" .info true = true ∧
      exported "shop::cart::item" .info false = false) ∧
    onConsole "shop::cart::item" .error = true ∧ exported "shop::cart::item" .error true = true := by
  intro edits history onConsole exported
  have louder : Severity.warn ≤ .error := by decide
  have kept : false ≤ true := by decide
  have shown : onConsole "shop::cart::item" .warn = true := by decide
  have sent : exported "shop::cart::item" .warn false = true := by decide
  have heldBack : exported "shop::cart::item" .info true = true ∧
      exported "shop::cart::item" .info false = false := by decide
  obtain ⟨onConsole', exported', -⟩ :=
    passes_of_louder .error edits history "shop::cart::item" louder kept
  exact ⟨⟨louder, kept, shown, sent⟩, heldBack, onConsole' shown, exported' sent⟩

end Pipeline

end TelemetryControl
