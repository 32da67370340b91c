/-
TelemetryControl.Proofs.Registry.Baseline — the baseline is captured once.

While a registry is at work, others write to its tree as well: loggers are
registered and levels replaced between two applies, and another registry
may apply snapshots of its own. All of that leaves the baselines of the
registry alone, so it is enough to see what an apply does to them.

* An apply offers a baseline for the loggers that it asks for, and for those alone:
  the level that the logger has of its own before the apply, whatever else the
  snapshot asks for (`offered?`).
* What is offered is captured unless a baseline is there already
  (`get?_baseline_change`). So it is the first offer of a run that counts.
* Whoever is asked for is still known and has such a level, since the loggers
  available to the registry were known when it was made and nobody can make
  a logger unknown (`Attached`).
-/
import TelemetryControl.Proofs.Registry.Overlay

namespace TelemetryControl

/-! ## 1. Snapshots that override a logger -/

/-- An entry for native levels holds up and means this logger: its level can be
read, and the logger is available. -/
def Snapshot.AsksFor (s : Snapshot) (available : NameTable Severity) (name : String) : Prop :=
  ∃ e ∈ s.logLevels, (Severity.ofText? e.level).isSome = true ∧
    LoggerName.normalize e.logger = name ∧ available.contains name = true

instance (s : Snapshot) (available : NameTable Severity) (name : String) :
    Decidable (s.AsksFor available name) :=
  inferInstanceAs (Decidable (∃ e ∈ s.logLevels, _))

theorem Snapshot.asksFor_iff (s : Snapshot) (available : NameTable Severity) (name : String) :
    s.AsksFor available name ↔ (lastThreshold? available s.logLevels name).isSome = true := by
  have asks (e : LevelEntry) : (e.threshold? available name).isSome = true ↔
      (Severity.ofText? e.level).isSome = true ∧
        LoggerName.normalize e.logger = name ∧ available.contains name = true := by
    unfold LevelEntry.threshold?
    split
    · next meant => simp [meant]
    · next other =>
      simp only [Option.isSome_none, Bool.false_eq_true, false_iff]
      exact fun h => other h.2
  simp [Snapshot.AsksFor, lastThreshold?, List.findSome?_isSome_iff, asks]

theorem Snapshot.AsksFor.contains {s : Snapshot} {available : NameTable Severity} {name : String}
    (h : s.AsksFor available name) : available.contains name = true := by
  obtain ⟨_, _, _, _, listed⟩ := h
  exact listed

/-- What a snapshot asks for is what the table published for it holds. -/
theorem Registry.contains_active_apply_iff (r : Registry) (t : LoggerTree) (s : Snapshot)
    (name : String) :
    (r.apply t s).registry.overrides.active.contains name = true ↔
      s.AsksFor r.available name := by
  rw [s.asksFor_iff, NameTable.contains, get?_active_apply]

/-! ## 2. Known loggers stay known -/

theorem LoggerTree.isSome_native?_edit {t : LoggerTree} {name : String}
    (known : (t.native? name).isSome = true) (e : LoggerTree.Edit) :
    ((t.edit e).native? name).isSome = true := by
  cases e with
  | register registered level =>
    exact (isSome_native?_register t registered name level).mpr (.inl known)
  | setNative changed level => rw [LoggerTree.edit, isSome_native?_setNative, known]
  | apply registry snapshot => rw [LoggerTree.edit, Registry.isSome_native?_apply, known]

namespace Pipeline

/-! ## 3. One change -/

/-- What can happen to a pipeline when it is not alone with its tree. -/
inductive Change where
  /-- Somebody changes the tree. -/
  | edit (e : LoggerTree.Edit)
  /-- A snapshot is applied through the registry of the pipeline. -/
  | apply (s : Snapshot)

/-- The pipeline after a change. -/
def change (p : Pipeline) : Change → Pipeline
  | .edit e => { p with tree := p.tree.edit e }
  | .apply s => p.apply s

variable {p : Pipeline} {name : String}

theorem available_change (p : Pipeline) (c : Change) :
    (p.change c).registry.available = p.registry.available := by
  cases c <;> rfl

/-- The level that a change offers as the baseline of a logger: an apply that asks for
the logger offers the level it has of its own, and nothing else offers any. -/
def offered? (p : Pipeline) (name : String) : Change → Option (Option Severity)
  | .edit _ => none
  | .apply s =>
    if s.AsksFor p.registry.available name then some (p.tree.ownLevel? name) else none

/-- A baseline that is there stays, and otherwise the one offered is captured. -/
theorem get?_baseline_change (p : Pipeline) (c : Change) (name : String) :
    (p.change c).registry.baseline.get? name =
      (p.registry.baseline.get? name).or (p.offered? name c) := by
  cases c with
  | edit e => exact Option.or_none.symm -- writes to the tree reach no baseline
  | apply s =>
    rw [change, registry_apply, Registry.get?_baseline_apply, offered?]
    congr 1
    exact if_congr (p.registry.contains_active_apply_iff p.tree s name) rfl rfl

theorem offered?_eq_none {c : Change}
    (silent : ∀ s, c = .apply s → ¬ s.AsksFor p.registry.available name) :
    p.offered? name c = none := by
  cases c with
  | edit e => rfl
  | apply s => exact if_neg (silent s rfl)

/-- The registry fits its tree: every logger available to it is known, and it has
captured a baseline for everything it overrides. -/
structure Attached (p : Pipeline) : Prop where
  known : ∀ name, p.registry.available.contains name = true →
    (p.tree.native? name).isSome = true
  captured : ∀ name, p.registry.overrides.active.contains name = true →
    p.registry.baseline.contains name = true

theorem attached_create (t : LoggerTree) : Attached (create t) where
  known := fun name available => (Registry.contains_available_create t name).symm.trans available
  captured := fun _ active => by cases active

/-- Whoever changes the tree, the registry goes on fitting it. -/
theorem Attached.change (h : Attached p) (c : Change) : Attached (p.change c) where
  known := fun name available => by
    rw [available_change] at available
    have known := h.known name available
    cases c with
    | edit e => exact LoggerTree.isSome_native?_edit known e
    | apply s => rw [Pipeline.change, tree_apply, Registry.isSome_native?_apply, known]
  captured := fun name active => by
    cases c with
    | edit e => exact h.captured name active
    | apply s =>
      obtain ⟨q, hq⟩ := (NameTable.contains_iff _ _).mp active
      exact (NameTable.contains_iff _ _).mpr (Overlaid.captured_apply p s hq)

/-! ## 4. Many changes -/

/-- The pipeline after some changes. -/
def after (p : Pipeline) (changes : List Change) : Pipeline :=
  changes.foldl change p

theorem after_append (p : Pipeline) (before later : List Change) :
    p.after (before ++ later) = (p.after before).after later := by
  simp [after]

theorem Attached.after (h : Attached p) (changes : List Change) : Attached (p.after changes) :=
  List.foldlRecOn changes _ h (fun _ attached c _ => attached.change c)

theorem available_after (p : Pipeline) (changes : List Change) :
    (p.after changes).registry.available = p.registry.available := by
  induction changes generalizing p with
  | nil => rfl
  | cons c rest ih => exact (ih (p.change c)).trans (available_change p c)

/-- A captured baseline is never replaced. -/
theorem get?_baseline_after_of_captured {own : Option Severity}
    (captured : p.registry.baseline.get? name = some own) (changes : List Change) :
    (p.after changes).registry.baseline.get? name = some own := by
  refine List.foldlRecOn (motive := fun q : Pipeline => q.registry.baseline.get? name = some own)
    changes _ captured ?_
  intro q kept c _
  rw [get?_baseline_change, kept, Option.some_or]

/-- While no apply asks for a logger its baseline does not change. -/
theorem get?_baseline_after_of_not_asksFor (changes : List Change)
    (silent : ∀ s, .apply s ∈ changes → ¬ s.AsksFor p.registry.available name) :
    (p.after changes).registry.baseline.get? name = p.registry.baseline.get? name := by
  induction changes generalizing p with
  | nil => rfl
  | cons c rest ih =>
    -- The loggers available stay the same, so the rest of the run asks for it as little.
    have first : p.offered? name c = none :=
      offered?_eq_none (fun s same => silent s (same ▸ List.mem_cons_self))
    have later := ih (p := p.change c) (fun s applied => by
      rw [available_change]
      exact silent s (List.mem_cons_of_mem c applied))
    rw [get?_baseline_change, first, Option.or_none] at later
    exact later

/-- **The baseline is captured once and is the level before all overrides.** Let
anybody write to the tree of a registry between its applies. A logger has
no baseline until the first apply with an accepted entry for its native
level. From that apply on the baseline is the level that the logger had of its
own right before it, to the end of the run. Entries that are rejected and
sampling thresholds capture none, and whatever is overridden has one. -/
theorem baseline_captured_once (t : LoggerTree) (changes : List Change) (name : String) :
    let available := (Registry.create t).available
    let p := (create t).after changes
    ((∀ s, .apply s ∈ changes → ¬ s.AsksFor available name) →
      p.registry.baseline.get? name = none) ∧
    (∀ before s later, changes = before ++ .apply s :: later →
      (∀ s', .apply s' ∈ before → ¬ s'.AsksFor available name) → s.AsksFor available name →
      ∃ own, ((create t).after before).tree.native? name = some own ∧
        p.registry.baseline.get? name = some own) ∧
    (p.registry.overrides.active.contains name = true →
      p.registry.baseline.contains name = true) := by
  intro available p
  have uncaptured (part : List Change)
      (silent : ∀ s, .apply s ∈ part → ¬ s.AsksFor available name) :
      ((create t).after part).registry.baseline.get? name = none :=
    get?_baseline_after_of_not_asksFor (p := create t) part silent
  refine ⟨uncaptured changes, ?first, ((attached_create t).after changes).captured name⟩
  case first =>
    intro before s later split silent asked
    have attached := (attached_create t).after before
    have offered : ((create t).after before).registry.available = available :=
      available_after (create t) before
    rw [← offered] at asked
    -- What is asked for is available, so it was known from the start and still is.
    obtain ⟨own, hown⟩ := Option.isSome_iff_exists.mp (attached.known name asked.contains)
    have captured :
        (((create t).after before).change (.apply s)).registry.baseline.get? name = some own := by
      rw [get?_baseline_change, uncaptured before silent, offered?, if_pos asked,
        LoggerTree.ownLevel?_of_native? hown, Option.none_or]
    have kept := get?_baseline_after_of_captured captured later
    refine ⟨own, hown, ?_⟩
    show ((create t).after changes).registry.baseline.get? name = some own
    rw [split, after_append]
    exact kept

/-- A level is replaced, and refused and sampling entries come in, before the
first override, which the snapshot gives twice; afterwards the level is taken
away and given anew. -/
theorem baseline_captured_once_between_writes :
    let t := LoggerTree.built .info [.register "a.b" (some .warn)]
    let available := (Registry.create t).available
    let before : List Change :=
      [.apply ⟨[⟨"a.b", "LOUD"⟩, ⟨"a.c", "INFO"⟩], [⟨"a.b", "DEBUG"⟩], none, none⟩,
        .edit (.setNative "a.b" (some .debug)), .apply ⟨[⟨"ROOT", "ERROR"⟩], [], none, none⟩]
    let first : Snapshot := ⟨[⟨" a.b", "error"⟩, ⟨"a.b", "TRACE"⟩], [], none, none⟩
    let later : List Change :=
      [.edit (.setNative "a.b" none), .edit (.register "a.b" (some .error)),
        .apply ⟨[⟨"a.b", "INFO"⟩], [], none, none⟩]
    let changes := before ++ .apply first :: later
    ((∀ s, .apply s ∈ before → ¬ s.AsksFor available "a.b") ∧ first.AsksFor available "a.b" ∧
      (∀ s, .apply s ∈ changes → ¬ s.AsksFor available "a") ∧
      ((create t).after changes).registry.overrides.active.contains "a.b" = true) ∧
    ((create t).after changes).registry.baseline.get? "a.b" = some (some .debug) ∧
      ((create t).after changes).registry.baseline.get? "a" = none ∧
      ((create t).after changes).registry.baseline.contains "a.b" = true := by
  intro t available before first later changes
  have silent : ∀ s, .apply s ∈ before → ¬ s.AsksFor available "a.b" := by
    intro s applied
    simp only [before, List.mem_cons, Change.apply.injEq, reduceCtorEq, false_or,
      List.not_mem_nil, or_false] at applied
    rcases applied with rfl | rfl <;> decide
  have asked : first.AsksFor available "a.b" := by decide
  have elsewhere : ∀ s, .apply s ∈ changes → ¬ s.AsksFor available "a" := by
    intro s applied
    simp only [changes, before, first, later, List.cons_append, List.nil_append, List.mem_cons,
      Change.apply.injEq, reduceCtorEq, false_or, List.not_mem_nil, or_false] at applied
    rcases applied with rfl | rfl | rfl | rfl <;> decide
  have active : ((create t).after changes).registry.overrides.active.contains "a.b" = true := by
    decide
  have replaced : ((create t).after before).tree.native? "a.b" = some (some .debug) := by decide
  obtain ⟨-, once, overridden⟩ := baseline_captured_once t changes "a.b"
  obtain ⟨never, -⟩ := baseline_captured_once t changes "a"
  obtain ⟨own, level, captured⟩ := once before first later rfl silent asked
  rw [replaced] at level
  rw [← Option.some.inj level] at captured
  exact ⟨⟨silent, asked, elsewhere, active⟩, captured, never elsewhere, overridden active⟩

end Pipeline

end TelemetryControl
