/-
TelemetryControl.Proofs.Registry.Overlay — applied overrides are a layer.

A registry is made over a tree, and from then on only applies touch that
tree. What they leave is always the first tree with the overrides of the
last snapshot laid over it (`Overlaid`): the tree, the captured baselines and
the published tables fit together in a way that one apply keeps, so every
run does. Nothing of an earlier snapshot is left.

The first tree is any tree there can be: one made with a level for the root
and then changed by registering loggers, replacing levels and applying
snapshots through other registries, in any order (`LoggerTree.built`).
-/
import TelemetryControl.Gate
import TelemetryControl.Proofs.Registry.Apply

namespace TelemetryControl

/-! ## 1. Every tree there can be -/

/-- What can happen to a logger tree. -/
inductive LoggerTree.Edit where
  /-- A logger is registered, with or without a level. -/
  | register (name : String) (level : Option Severity)
  /-- The own level of a logger is replaced or taken away. -/
  | setNative (name : String) (level : Option Severity)
  /-- A snapshot is applied through some registry. -/
  | apply (registry : Registry) (snapshot : Snapshot)

/-- The tree after an edit. -/
def LoggerTree.edit (t : LoggerTree) : LoggerTree.Edit → LoggerTree
  | .register name level => t.register name level
  | .setNative name level => t.setNative name level
  | .apply registry snapshot => (registry.apply t snapshot).backend

/-- The tree that some edits lead to. -/
def LoggerTree.built (root : Severity) (edits : List LoggerTree.Edit) : LoggerTree :=
  edits.foldl LoggerTree.edit (LoggerTree.new root)

theorem LoggerTree.Rooted.apply {t : LoggerTree} (h : t.Rooted) (r : Registry) (s : Snapshot) :
    (r.apply t s).backend.Rooted := by
  rw [Registry.backend_apply]
  refine List.foldlRecOn _ _ ?installed ?restored
  case installed =>
    unfold Registry.installAll
    refine List.foldlRecOn (motive := fun m : NameTable (Option Severity) × LoggerTree =>
      m.2.Rooted) _ _ h ?_
    intro m hm ask _
    exact hm.setNative _ _
  case restored =>
    intro u hu name _
    unfold Registry.restore
    split
    · exact hu.setNative _ _
    · exact hu

/-- No edit takes the root's level away. -/
theorem LoggerTree.Rooted.edit {t : LoggerTree} (h : t.Rooted) (e : LoggerTree.Edit) :
    (t.edit e).Rooted := by
  cases e with
  | register name level => exact h.register name level
  | setNative name level => exact h.setNative name level
  | apply registry snapshot => exact h.apply registry snapshot

/-- In every tree the root has a level. -/
theorem LoggerTree.rooted_built (root : Severity) (edits : List LoggerTree.Edit) :
    (LoggerTree.built root edits).Rooted :=
  List.foldlRecOn edits _ (LoggerTree.rooted_new root) (fun _ h e _ => h.edit e)

namespace Pipeline

/-- The pipeline after some snapshots. -/
def run (p : Pipeline) (history : List Snapshot) : Pipeline :=
  history.foldl apply p

@[simp] theorem run_concat (p : Pipeline) (history : List Snapshot) (s : Snapshot) :
    p.run (history ++ [s]) = (p.run history).apply s := by
  simp [run]

theorem tree_apply (p : Pipeline) (s : Snapshot) :
    (p.apply s).tree = (p.registry.apply p.tree s).backend := rfl

theorem registry_apply (p : Pipeline) (s : Snapshot) :
    (p.apply s).registry = (p.registry.apply p.tree s).registry := rfl

/-! ## 2. The layer -/

/-- The level of a logger of a tree with a threshold laid over it. -/
def layered (t : LoggerTree) (name : String) : Option Severity → Option (Option Severity)
  | some q => some (some (min (t.effective name) q))
  | none => t.native? name

/-- The pipeline is a tree with the active overrides laid over it. -/
structure Overlaid (t : LoggerTree) (p : Pipeline) : Prop where
  available : p.registry.available = (Registry.create t).available
  rootLevel : p.registry.rootLevel = (Registry.create t).rootLevel
  filter : p.filter = .overrides
  /-- A captured baseline is the level of the first tree. -/
  baseline : ∀ name own, p.registry.baseline.get? name = some own → own = t.ownLevel? name
  /-- What is overridden has its baseline captured. -/
  captured : ∀ name q, p.registry.overrides.active.get? name = some q →
    ∃ own, p.registry.baseline.get? name = some own
  /-- Only known loggers are overridden. -/
  known : ∀ name q, p.registry.overrides.active.get? name = some q → (t.native? name).isSome = true
  levels : ∀ name, p.tree.native? name = layered t name (p.registry.overrides.active.get? name)

theorem overlaid_create (t : LoggerTree) : Overlaid t (create t) where
  available := rfl
  rootLevel := rfl
  filter := rfl
  baseline := fun _ _ h => by cases h
  captured := fun _ _ h => by cases h
  known := fun _ _ h => by cases h
  levels := fun _ => rfl

namespace Overlaid

variable {t : LoggerTree} {p : Pipeline} {name : String}

/-- Layers hide no logger and make none known. -/
theorem isSome_native? (h : Overlaid t p) (name : String) :
    (p.tree.native? name).isSome = (t.native? name).isSome := by
  rw [h.levels]
  cases active : p.registry.overrides.active.get? name with
  | none => rfl
  | some q => simp [layered, h.known name q active]

/-- What is not overridden has the level of the first tree. -/
theorem native?_of_inactive (h : Overlaid t p)
    (inactive : p.registry.overrides.active.get? name = none) :
    p.tree.native? name = t.native? name := by
  rw [h.levels, inactive, layered]

theorem available_iff (h : Overlaid t p) (name : String) :
    p.registry.available.contains name = true ↔ (t.native? name).isSome = true := by
  rw [h.available, Registry.contains_available_create]

/-- With its baseline captured, a known logger is clamped at the level that was
in force for it in the first tree. -/
theorem ceiling_eq (h : Overlaid t p) {baseline : NameTable (Option Severity)}
    (captured : baseline.get? name = some (t.ownLevel? name))
    (known : (t.native? name).isSome = true) :
    p.registry.ceiling baseline name = t.effective name := by
  obtain ⟨own, hown⟩ := Option.isSome_iff_exists.mp known
  unfold Registry.ceiling
  rw [captured, h.available, Registry.get?_available_create, hown]
  cases level : t.ownLevel? name with
  | none => rfl
  | some s => simp [LoggerTree.effective_of_ownLevel? level]

/-- Every baseline is that of the first tree, also one captured only now. -/
theorem baseline_apply (h : Overlaid t p) (s : Snapshot) {own : Option Severity}
    (captured : (p.apply s).registry.baseline.get? name = some own) : own = t.ownLevel? name := by
  rw [registry_apply, Registry.get?_baseline_apply] at captured
  cases before : p.registry.baseline.get? name with
  | some own' =>
    rw [before, Option.some_or] at captured
    exact h.baseline name own (before.trans captured)
  | none =>
    rw [before, Option.none_or] at captured
    split at captured
    · -- Not captured before, so not overridden: the tree still has its first level.
      have inactive : p.registry.overrides.active.get? name = none := by
        cases active : p.registry.overrides.active.get? name with
        | none => rfl
        | some q =>
          obtain ⟨own', hown'⟩ := h.captured name q active
          rw [before] at hown'
          cases hown'
      rw [← Option.some.inj captured]
      exact congrArg Option.join (h.native?_of_inactive inactive)
    · cases captured

/-- An apply captures the baseline of everything it overrides. -/
theorem captured_apply (p : Pipeline) (s : Snapshot) {q : Severity}
    (active : (p.apply s).registry.overrides.active.get? name = some q) :
    ∃ own, (p.apply s).registry.baseline.get? name = some own := by
  have asked : (p.apply s).registry.overrides.active.contains name = true :=
    (NameTable.contains_iff _ _).mpr ⟨q, active⟩
  rw [registry_apply] at asked ⊢
  rw [Registry.get?_baseline_apply, if_pos asked, Option.or_some]
  exact ⟨_, rfl⟩

theorem known_apply (h : Overlaid t p) (s : Snapshot) {q : Severity}
    (active : (p.apply s).registry.overrides.active.get? name = some q) :
    (t.native? name).isSome = true := by
  rw [registry_apply, Registry.get?_active_apply] at active
  exact (h.available_iff name).mp (contains_of_lastThreshold? active)

/-- A dropped logger gets back the level of the first tree. -/
theorem native?_apply_of_dropped (h : Overlaid t p) (rooted : t.Rooted) (s : Snapshot)
    {q : Severity} (active : p.registry.overrides.active.get? name = some q)
    (asked : (p.apply s).registry.overrides.active.get? name = none) :
    (p.apply s).tree.native? name = t.native? name := by
  have dropped : p.registry.overrides.active.contains name = true :=
    (NameTable.contains_iff _ _).mpr ⟨q, active⟩
  -- Its baseline was captured earlier and is still there.
  obtain ⟨own, before⟩ := h.captured name q active
  obtain rfl := h.baseline name own before
  have captured : (p.apply s).registry.baseline.get? name = some (t.ownLevel? name) := by
    rw [registry_apply, Registry.get?_baseline_apply, before, Option.some_or]
  have restorable : ¬ (name = LoggerName.root ∧ some (t.ownLevel? name) = some none) := by
    rintro ⟨rfl, cleared⟩
    obtain ⟨level, hlevel⟩ := rooted.ownLevel?_root
    rw [hlevel] at cleared
    cases cleared
  have known := h.known name q active
  obtain ⟨level, hlevel⟩ := Option.isSome_iff_exists.mp ((h.isSome_native? name).trans known)
  obtain ⟨first, hfirst⟩ := Option.isSome_iff_exists.mp known
  rw [tree_apply, Registry.native?_apply, ← registry_apply, asked]
  simp only [captured]
  rw [if_pos ⟨dropped, restorable⟩, hlevel, hfirst, LoggerTree.ownLevel?_of_native? hfirst]
  rfl

/-- What is asked for is laid over the first tree, and what no longer is gives
that tree back. -/
theorem levels_apply (h : Overlaid t p) (rooted : t.Rooted) (s : Snapshot) (name : String) :
    (p.apply s).tree.native? name =
      layered t name ((p.apply s).registry.overrides.active.get? name) := by
  cases asked : (p.apply s).registry.overrides.active.get? name with
  | some q =>
    have known := h.known_apply s asked
    obtain ⟨own, captured⟩ := captured_apply p s asked
    rw [h.baseline_apply s captured] at captured
    obtain ⟨level, hlevel⟩ := Option.isSome_iff_exists.mp ((h.isSome_native? name).trans known)
    rw [tree_apply, Registry.native?_apply, ← registry_apply, asked]
    simp [layered, hlevel, h.ceiling_eq captured known]
  | none =>
    cases active : p.registry.overrides.active.get? name with
    | none =>
      have inactive : p.registry.overrides.active.contains name = false :=
        (NameTable.contains_eq_false_iff _ _).mpr active
      rw [tree_apply, Registry.native?_apply, ← registry_apply, asked]
      simp [layered, inactive, h.native?_of_inactive active]
    | some q => exact h.native?_apply_of_dropped rooted s active asked

/-- One apply keeps the layer. -/
theorem apply (h : Overlaid t p) (rooted : t.Rooted) (s : Snapshot) : Overlaid t (p.apply s) where
  available := h.available
  rootLevel := h.rootLevel
  filter := h.filter
  baseline := fun _ _ captured => h.baseline_apply s captured
  captured := fun _ _ active => captured_apply p s active
  known := fun _ _ active => h.known_apply s active
  levels := h.levels_apply rooted s

/-- Layers with the same active overrides are the same tree. -/
theorem tree_eq {p' : Pipeline} (h : Overlaid t p) (h' : Overlaid t p')
    (same : p.registry.overrides.active = p'.registry.overrides.active) : p.tree = p'.tree :=
  LoggerTree.ext_native? (fun name => by rw [h.levels, h'.levels, same])

/-- Layers with the same overrides and the same baselines are the same pipeline. -/
theorem eq_of_tables {p' : Pipeline} (h : Overlaid t p) (h' : Overlaid t p')
    (overrides : p.registry.overrides = p'.registry.overrides)
    (baseline : p.registry.baseline = p'.registry.baseline) : p = p' := by
  have tree := h.tree_eq h' (congrArg Overrides.active overrides)
  have available := h.available.trans h'.available.symm
  have rootLevel := h.rootLevel.trans h'.rootLevel.symm
  have filter := h.filter.trans h'.filter.symm
  obtain ⟨_, ⟨_, _, _, _⟩, _⟩ := p
  obtain ⟨_, ⟨_, _, _, _⟩, _⟩ := p'
  simp only at tree available rootLevel filter overrides baseline
  subst tree available rootLevel filter overrides baseline
  rfl

end Overlaid

/-- Every run keeps the layer. -/
theorem overlaid_run {t : LoggerTree} (rooted : t.Rooted) (history : List Snapshot) :
    Overlaid t ((create t).run history) := by
  induction history using List.reverseRecOn with
  | nil => exact overlaid_create t
  | append_singleton history s ih =>
    rw [run_concat]
    exact ih.apply rooted s

/-! ## 3. Only the last snapshot counts -/

section Last

variable {t : LoggerTree} {p : Pipeline} {s : Snapshot}

/-- The active table of the last snapshot. -/
theorem Overlaid.get?_active_apply (h : Overlaid t p) (name : String) :
    (p.apply s).registry.overrides.active.get? name =
      lastThreshold? (Registry.create t).available s.logLevels name := by
  rw [registry_apply, Registry.get?_active_apply, h.available]

/-- The sampling table of the last snapshot. -/
theorem Overlaid.get?_sampling_apply (h : Overlaid t p) (name : String) :
    (p.apply s).registry.overrides.sampling.get? name =
      lastThreshold? (Registry.create t).available s.samplingLogLevels name := by
  rw [registry_apply, Registry.get?_sampling_apply, h.available]

/-- Tables depend on the snapshot alone. -/
theorem Overlaid.overrides_apply_eq {p' : Pipeline} (h : Overlaid t p) (h' : Overlaid t p') :
    (p.apply s).registry.overrides = (p'.apply s).registry.overrides := by
  have active : (p.apply s).registry.overrides.active = (p'.apply s).registry.overrides.active :=
    NameTable.ext_get? (fun name => by rw [h.get?_active_apply, h'.get?_active_apply])
  have sampling :
      (p.apply s).registry.overrides.sampling = (p'.apply s).registry.overrides.sampling :=
    NameTable.ext_get? (fun name => by rw [h.get?_sampling_apply, h'.get?_sampling_apply])
  exact congrArg₂ Overrides.mk active sampling

/-- Applying a snapshot once more changes nothing. -/
theorem Overlaid.apply_apply (h : Overlaid t p) (rooted : t.Rooted) :
    (p.apply s).apply s = p.apply s := by
  have once := h.apply rooted s
  have overrides : ((p.apply s).apply s).registry.overrides = (p.apply s).registry.overrides :=
    once.overrides_apply_eq h
  have baseline : ((p.apply s).apply s).registry.baseline = (p.apply s).registry.baseline := by
    refine NameTable.ext_get? (fun name => ?_)
    rw [registry_apply (p.apply s), Registry.get?_baseline_apply, ← registry_apply (p.apply s),
      overrides]
    split
    · next active =>
      obtain ⟨q, hq⟩ := (NameTable.contains_iff _ _).mp active
      obtain ⟨own, captured⟩ := once.captured name q hq
      rw [captured, Option.some_or]
    · rw [Option.or_none]
  exact (once.apply rooted s).eq_of_tables once overrides baseline

end Last

/-- **Only the last snapshot counts.** After any run the tables are those of the
last snapshot, each logger it overrides has the lesser of the threshold and
its first level, and every other logger is as it was in the first tree.
Earlier snapshots leave nothing, and the last one changes nothing when it is
applied again. -/
theorem run_overlays_last_snapshot (root : Severity) (edits : List LoggerTree.Edit)
    (earlier : List Snapshot) (last : Snapshot) :
    let t := LoggerTree.built root edits
    let available := (Registry.create t).available
    let p := (create t).run (earlier ++ [last])
    (∀ name,
      p.registry.overrides.active.get? name = lastThreshold? available last.logLevels name ∧
      p.registry.overrides.sampling.get? name =
        lastThreshold? available last.samplingLogLevels name ∧
      p.tree.native? name =
        match lastThreshold? available last.logLevels name with
        | some q => some (some (min ((t.ownLevel? name).getD (t.effective name)) q))
        | none => t.native? name) ∧
    p.tree = ((create t).apply last).tree ∧
    p.registry.overrides = ((create t).apply last).registry.overrides ∧
    p.apply last = p := by
  intro t available p
  have rooted : t.Rooted := LoggerTree.rooted_built root edits
  have before : Overlaid t ((create t).run earlier) := overlaid_run rooted earlier
  have first : Overlaid t (create t) := overlaid_create t
  have step : p = ((create t).run earlier).apply last := run_concat _ _ _
  have overrides := before.overrides_apply_eq first (s := last)
  refine ⟨fun name => ⟨?active, ?sampling, ?level⟩, ?tree, ?tables, ?again⟩
  case active => rw [step, before.get?_active_apply]
  case sampling => rw [step, before.get?_sampling_apply]
  case level =>
    rw [step, (before.apply rooted last).levels, before.get?_active_apply,
      LoggerTree.getD_ownLevel?]
    rfl
  case tree =>
    rw [step]
    exact (before.apply rooted last).tree_eq (first.apply rooted last)
      (congrArg Overrides.active overrides)
  case tables => rw [step, overrides]
  case again => rw [step, before.apply_apply rooted]

end Pipeline

end TelemetryControl
