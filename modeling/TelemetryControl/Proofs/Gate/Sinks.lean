/-
TelemetryControl.Proofs.Gate.Sinks — the console beside the export.

A record reaches the console past the tree and the filter of the registry, and
the export past the tree and the gate. Filter and gate each look up the
override of the logger, on the same table but with different answers where
there is none: the filter falls back on the first level of the root, and the
gate on nothing at all.

Both are described here by what they ask of a record (`consolePermits_iff`,
`exports_sampled_iff`), and the main statement puts the two side by
side (`console_agrees_with_sampled_export`).
-/
import TelemetryControl.Proofs.Registry.Routing

namespace TelemetryControl

/-! ## 1. What the gate asks of a record -/

namespace Decision

variable {d : Decision} {s : Severity}

/-- In a sampled trace the gate asks for the threshold of the override alone. -/
theorem admits_sampled_iff : d.admits s true = true ↔ ∀ want ∈ d.severity, want ≤ s := by
  unfold admits
  cases d.severity <;> cases d.samplingSeverity <;> simp

/-- In an unsampled trace a record has to be above the sampling threshold
besides. -/
theorem admits_unsampled_iff :
    d.admits s false = true ↔
      d.admits s true = true ∧ ∀ held ∈ d.samplingSeverity, ¬ s ≤ held := by
  unfold admits
  cases d.samplingSeverity <;> simp

end Decision

namespace Pipeline

/-- Whether a record of a logger is exported: it is enabled, and the gate admits
it. -/
def exports (p : Pipeline) (name : String) (s : Severity) (sampled : Bool) : Bool :=
  p.accepts name s .exportSink && p.admits name s sampled

theorem exportPermits_eq_exports (p : Pipeline) (target : String) (s : Severity) (sampled : Bool) :
    p.exportPermits target s sampled = p.exports (LoggerName.ofTarget target) s sampled := rfl

theorem accepts_export_iff (p : Pipeline) (name : String) (s : Severity) :
    p.accepts name s .exportSink = true ↔ p.tree.effective name ≤ s := by
  simp [accepts, LoggerTree.accepts, LoggerTree.isEnabled]

theorem exports_sampled_iff (p : Pipeline) (name : String) (s : Severity) :
    p.exports name s true = true ↔ p.tree.effective name ≤ s ∧
      ∀ want ∈ Overrides.effective p.registry.overrides.active name, want ≤ s := by
  rw [exports, Bool.and_eq_true, accepts_export_iff, admits, Decision.admits_sampled_iff]
  rfl

/-! ## 2. Side by side -/

theorem Overlaid.consolePermits_iff {t : LoggerTree} {p : Pipeline} (h : Overlaid t p)
    (target : String) (s : Severity) :
    p.consolePermits target s = true ↔
      p.tree.effective (LoggerName.ofTarget target) ≤ s ∧
        (Overrides.effective p.registry.overrides.active (LoggerName.ofTarget target)).getD
          (t.effective LoggerName.root) ≤ s := by
  rw [consolePermits, h.accepts_local, h.rootLevel, Registry.rootLevel_create]

/-- **Console and export agree about sampled traces.** After any run, an event of a
module whose logger has an override is shown on the console exactly when it is
exported from a sampled trace. Where no override reaches the logger, the
console asks besides for the level that was in force for the root when the
registry was made. So the console never shows what a sampled trace would not
also export. -/
theorem console_agrees_with_sampled_export (root : Severity) (edits : List LoggerTree.Edit)
    (history : List Snapshot) (target : String) (s : Severity) :
    let t := LoggerTree.built root edits
    let p := (create t).run history
    let asked := Overrides.effective p.registry.overrides.active (LoggerName.ofTarget target)
    ((∃ q, asked = some q) → p.consolePermits target s = p.exportPermits target s true) ∧
    (asked = none →
      (p.consolePermits target s = true ↔
        p.exportPermits target s true = true ∧ t.effective LoggerName.root ≤ s)) ∧
    (p.consolePermits target s = true → p.exportPermits target s true = true) := by
  intro t p asked
  have h : Overlaid t p := overlaid_run (LoggerTree.rooted_built root edits) history
  have console : p.consolePermits target s = true ↔
      p.tree.effective (LoggerName.ofTarget target) ≤ s ∧
        asked.getD (t.effective LoggerName.root) ≤ s := h.consolePermits_iff target s
  have sampled : p.exportPermits target s true = true ↔
      p.tree.effective (LoggerName.ofTarget target) ≤ s ∧ ∀ want ∈ asked, want ≤ s := by
    rw [exportPermits_eq_exports, exports_sampled_iff]
  refine ⟨?overridden, ?silent, ?included⟩
  case overridden =>
    rintro ⟨q, resolved⟩
    rw [Bool.eq_iff_iff, console, sampled, resolved]
    simp
  case silent =>
    intro resolved
    rw [console, sampled, resolved]
    simp
  case included =>
    intro shown
    obtain ⟨enabled, passed⟩ := console.mp shown
    refine sampled.mpr ⟨enabled, fun want resolved => ?_⟩
    rwa [Option.mem_def.mp resolved] at passed

/-- After an override of the root was taken back: one module is below an override,
and the other one below none. -/
theorem console_agrees_with_sampled_export_after_restore :
    let edits := [.register "shop" (some .trace), .register "shop.cart" none]
    let history : List Snapshot :=
      [⟨[⟨"ROOT", "TRACE"⟩], [], none, none⟩,
        ⟨[⟨"shop.cart", "ERROR"⟩], [⟨"ROOT", "ERROR"⟩], none, none⟩]
    let asked := fun target =>
      Overrides.effective
        ((create (LoggerTree.built .warn edits)).run history).registry.overrides.active
        (LoggerName.ofTarget target)
    let onConsole := ((create (LoggerTree.built .warn edits)).run history).consolePermits
    let exported := ((create (LoggerTree.built .warn edits)).run history).exportPermits
    (asked "shop::cart::item" = some .error ∧ asked "shop::till" = none ∧
      onConsole "shop::till" .error = true) ∧
    (∀ s, onConsole "shop::cart::item" s = exported "shop::cart::item" s true) ∧
    (∀ s, onConsole "shop::till" s = true ↔ exported "shop::till" s true = true ∧
      (LoggerTree.built .warn edits).effective LoggerName.root ≤ s) ∧
    exported "shop::till" .error true = true := by
  intro edits history asked onConsole exported
  have overridden : asked "shop::cart::item" = some .error := by decide
  have silent : asked "shop::till" = none := by decide
  have shown : onConsole "shop::till" .error = true := by decide
  have cart := console_agrees_with_sampled_export .warn edits history "shop::cart::item"
  have till := console_agrees_with_sampled_export .warn edits history "shop::till"
  exact ⟨⟨overridden, silent, shown⟩, fun s => (cart s).1 ⟨.error, overridden⟩,
    fun s => (till s).2.1 silent, (till .error).2.2 shown⟩

end Pipeline

end TelemetryControl
