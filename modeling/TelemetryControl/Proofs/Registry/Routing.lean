/-
TelemetryControl.Proofs.Registry.Routing — what overrides do to records.

A record has to pass the level in force for its logger, and on its way to a
local sink also the threshold that was asked for. Both are found on a walk,
one on that of the tree and one on that of the registry, and everything here
follows from reading both walks of a layered tree side by side.

* No override makes a logger less verbose (`run_effective_le`).
* Where an override is inherited, local sinks obey it to the letter
  (`accepts_local_iff_of_override`).
* An override reaches the loggers it encloses and no others
  (`run_alike_of_last`).
-/
import TelemetryControl.Proofs.Registry.Overlay

namespace TelemetryControl.Pipeline

/-! ## 1. Levels under a layer -/

namespace Overlaid

variable {t : LoggerTree} {p : Pipeline} {name : String}

theorem rooted (h : Overlaid t p) (rooted : t.Rooted) : p.tree.Rooted := by
  obtain ⟨s, hs⟩ := rooted
  unfold LoggerTree.Rooted
  rw [h.levels]
  cases p.registry.overrides.active.get? LoggerName.root with
  | none => exact ⟨s, hs⟩
  | some q => exact ⟨_, rfl⟩

theorem ownLevel?_of_active (h : Overlaid t p) {q : Severity}
    (active : p.registry.overrides.active.get? name = some q) :
    p.tree.ownLevel? name = some (min (t.effective name) q) :=
  LoggerTree.ownLevel?_of_native? (by rw [h.levels, active, layered])

/-- A logger without a level of its own had none in the first tree either, and
is not overridden. -/
theorem silent_of_silent (h : Overlaid t p) (silent : p.tree.ownLevel? name = none) :
    t.ownLevel? name = none := by
  cases active : p.registry.overrides.active.get? name with
  | none =>
    rw [← silent, LoggerTree.ownLevel?, LoggerTree.ownLevel?, h.native?_of_inactive active]
  | some q =>
    rw [h.ownLevel?_of_active active] at silent
    cases silent

/-- The level in force never rises. -/
theorem effective_le (h : Overlaid t p) (rooted : t.Rooted) (name : String) :
    p.tree.effective name ≤ t.effective name := by
  -- The name that decides now; nothing before it decided in the first tree either.
  obtain ⟨before, decisive, after, split, found, silent⟩ :=
    LoggerName.exists_split_of_resolve ((h.rooted rooted).resolve_ownLevel? name)
  have inherited : t.effective name = t.effective decisive :=
    rooted.effective_inherited split (fun n hn => h.silent_of_silent (silent n hn))
  rw [inherited]
  cases active : p.registry.overrides.active.get? decisive with
  | some q =>
    rw [h.ownLevel?_of_active active] at found
    rw [← Option.some.inj found]
    exact (Severity.min_le_iff _ _ _).mpr (.inl (Severity.le_refl _))
  | none =>
    have first : t.ownLevel? decisive = some (p.tree.effective name) := by
      rw [← found, LoggerTree.ownLevel?, LoggerTree.ownLevel?, h.native?_of_inactive active]
    rw [LoggerTree.effective_of_ownLevel? first]
    exact Severity.le_refl _

end Overlaid

/-- **Overrides only add verbosity.** After any run the level in force for any
logger, known or not, is at most what it was when the registry was made, so
every record that was enabled then still is. -/
theorem run_effective_le (root : Severity) (edits : List LoggerTree.Edit)
    (history : List Snapshot) (name : String) :
    let t := LoggerTree.built root edits
    let p := (create t).run history
    p.tree.effective name ≤ t.effective name ∧
      ∀ s, t.isEnabled name s = true → p.tree.isEnabled name s = true := by
  intro t p
  have rooted : t.Rooted := LoggerTree.rooted_built root edits
  have lower : p.tree.effective name ≤ t.effective name :=
    (overlaid_run rooted history).effective_le rooted name
  refine ⟨lower, fun s enabled => ?_⟩
  simp only [LoggerTree.isEnabled, decide_eq_true_eq] at enabled ⊢
  exact Severity.le_trans lower enabled

/-! ## 2. Local sinks -/

/-- Before local sinks stands the filter of the registry. -/
theorem Overlaid.accepts_local {t : LoggerTree} {p : Pipeline} (h : Overlaid t p) (name : String)
    (s : Severity) :
    p.accepts name s .localSink = true ↔
      p.tree.effective name ≤ s ∧
        (Overrides.effective p.registry.overrides.active name).getD p.registry.rootLevel ≤ s := by
  simp [accepts, LoggerTree.accepts, LoggerTree.isEnabled, passesFilter, h.filter,
    LocalFilter.permits, Registry.permits]

/-- **Local sinks obey an inherited override to the letter.** When the first
overridden name on the walk of a logger is reached before any level of
another, a record reaches local sinks exactly when it is at or above the
threshold asked for, whether the level before the override was above that
threshold or below. -/
theorem accepts_local_iff_of_override (root : Severity) (edits : List LoggerTree.Edit)
    (history : List Snapshot) (name decisive : String) (before after : List String)
    (q : Severity) :
    let p := (create (LoggerTree.built root edits)).run history
    LoggerName.walk name = before ++ decisive :: after →
    (∀ n ∈ before, p.registry.overrides.active.get? n = none) →
    p.registry.overrides.active.get? decisive = some q →
    (∀ n ∈ before, p.tree.ownLevel? n = none) →
    ∀ s, p.accepts name s .localSink = true ↔ q ≤ s := by
  intro p split first active silent s
  have rooted : (LoggerTree.built root edits).Rooted := LoggerTree.rooted_built root edits
  have h : Overlaid (LoggerTree.built root edits) p := overlaid_run rooted history
  have native : p.tree.effective name =
      min ((LoggerTree.built root edits).effective decisive) q :=
    (h.rooted rooted).effective_eq_of_split split silent (h.ownLevel?_of_active active)
  have asked : Overrides.effective p.registry.overrides.active name = some q :=
    LoggerName.resolve_of_split split first active
  rw [h.accepts_local, native, asked, Option.getD_some, Severity.min_le_iff]
  constructor
  · exact fun both => both.2
  · exact fun above => ⟨.inr above, above⟩

/-- A logger two steps below an override that is stricter than its own level. -/
theorem accepts_local_iff_below_stricter_override :
    let edits := [.register "a" (some .debug), .register "a.b" none]
    let p := (create (LoggerTree.built .info edits)).run [⟨[⟨" a", "Error"⟩], [], none, none⟩]
    (LoggerName.walk "a.b.c" = ["a.b.c", "a.b"] ++ "a" :: [""] ∧
      (∀ n ∈ ["a.b.c", "a.b"], p.registry.overrides.active.get? n = none) ∧
      p.registry.overrides.active.get? "a" = some .error ∧
      ∀ n ∈ ["a.b.c", "a.b"], p.tree.ownLevel? n = none) ∧
    ∀ s, p.accepts "a.b.c" s .localSink = true ↔ .error ≤ s := by
  intro edits p
  have split : LoggerName.walk "a.b.c" = ["a.b.c", "a.b"] ++ "a" :: [""] := by decide
  have first : ∀ n ∈ ["a.b.c", "a.b"], p.registry.overrides.active.get? n = none := by decide
  have active : p.registry.overrides.active.get? "a" = some .error := by decide
  have silent : ∀ n ∈ ["a.b.c", "a.b"], p.tree.ownLevel? n = none := by decide
  exact ⟨⟨split, first, active, silent⟩,
    accepts_local_iff_of_override .info edits _ "a.b.c" "a" _ _ .error split first active silent⟩

/-! ## 3. Nothing leaks sideways -/

/-- All that is decided about the records of a logger is decided alike. -/
def Alike (p p' : Pipeline) (name : String) : Prop :=
  ∀ (s : Severity) (sampled : Bool),
    p.tree.isEnabled name s = p'.tree.isEnabled name s ∧
    p.accepts name s .localSink = p'.accepts name s .localSink ∧
    p.accepts name s .exportSink = p'.accepts name s .exportSink ∧
    p.admits name s sampled = p'.admits name s sampled

/-- Layers over one tree decide alike for a logger when their tables agree on its walk. -/
theorem Overlaid.alike {t : LoggerTree} {p p' : Pipeline} {name : String} (h : Overlaid t p)
    (h' : Overlaid t p') (rooted : t.Rooted)
    (active : ∀ n ∈ LoggerName.walk name,
      p.registry.overrides.active.get? n = p'.registry.overrides.active.get? n)
    (sampling : ∀ n ∈ LoggerName.walk name,
      p.registry.overrides.sampling.get? n = p'.registry.overrides.sampling.get? n) :
    Alike p p' name := by
  intro s sampled
  have levels : p.tree.effective name = p'.tree.effective name :=
    (h.rooted rooted).effective_congr (h'.rooted rooted)
      (fun n hn => by rw [h.levels, h'.levels, active n hn])
  have enabled : p.tree.isEnabled name s = p'.tree.isEnabled name s := by
    rw [LoggerTree.isEnabled, LoggerTree.isEnabled, levels]
  have asked : Overrides.effective p.registry.overrides.active name =
      Overrides.effective p'.registry.overrides.active name :=
    LoggerName.resolve_congr active
  have held : Overrides.effective p.registry.overrides.sampling name =
      Overrides.effective p'.registry.overrides.sampling name :=
    LoggerName.resolve_congr sampling
  refine ⟨enabled, ?localSink, ?exportSink, ?gate⟩
  case localSink =>
    rw [Bool.eq_iff_iff, h.accepts_local, h'.accepts_local, levels, asked, h.rootLevel,
      h'.rootLevel]
  case exportSink => simp [accepts, LoggerTree.accepts, enabled]
  case gate =>
    simp only [admits, Registry.decision, Overrides.decision, asked, held]

/-- **Nothing leaks sideways.** What is decided about the records of a logger
depends on the first tree and on the thresholds that the last snapshot asks
for along the walk of that logger, and on nothing else: neither on earlier
snapshots nor on any other logger. When the last snapshot asks for none
there, all is as it was when the registry was made. -/
theorem run_alike_of_last (root : Severity) (edits : List LoggerTree.Edit) (name : String)
    (earlier earlier' : List Snapshot) (last last' : Snapshot) :
    let t := LoggerTree.built root edits
    let available := (Registry.create t).available
    let p := (create t).run (earlier ++ [last])
    let p' := (create t).run (earlier' ++ [last'])
    ((∀ n ∈ LoggerName.walk name,
        lastThreshold? available last.logLevels n = lastThreshold? available last'.logLevels n ∧
        lastThreshold? available last.samplingLogLevels n =
          lastThreshold? available last'.samplingLogLevels n) →
      Alike p p' name) ∧
    ((∀ e ∈ last.logLevels ++ last.samplingLogLevels, ∀ n ∈ LoggerName.walk name,
        e.threshold? available n = none) →
      Alike p (create t) name) := by
  intro t available p p'
  have rooted : t.Rooted := LoggerTree.rooted_built root edits
  have before : Overlaid t ((create t).run earlier) := overlaid_run rooted earlier
  have before' : Overlaid t ((create t).run earlier') := overlaid_run rooted earlier'
  have step : p = ((create t).run earlier).apply last := run_concat _ _ _
  have step' : p' = ((create t).run earlier').apply last' := run_concat _ _ _
  rw [step, step']
  refine ⟨fun same => ?_, fun silent => ?_⟩
  · refine (before.apply rooted last).alike (before'.apply rooted last') rooted ?_ ?_
    · intro n hn
      rw [before.get?_active_apply, before'.get?_active_apply]
      exact (same n hn).1
    · intro n hn
      rw [before.get?_sampling_apply, before'.get?_sampling_apply]
      exact (same n hn).2
  · refine (before.apply rooted last).alike (overlaid_create t) rooted ?_ ?_
    · intro n hn
      rw [before.get?_active_apply]
      exact (lastThreshold?_eq_none_iff _ _ _).mpr
        (fun e he => silent e (List.mem_append_left _ he) n hn)
    · intro n hn
      rw [before.get?_sampling_apply]
      exact (lastThreshold?_eq_none_iff _ _ _).mpr
        (fun e he => silent e (List.mem_append_right _ he) n hn)

/-- An override once given and then dropped, and one of a logger whose name only
starts alike, leave a logger as it was. -/
theorem run_alike_after_override_of_similar_name :
    let t := LoggerTree.built .info [.register "a.b" (some .warn), .register "a.bc" none]
    let earlier := [⟨[⟨"a.bc", "TRACE"⟩, ⟨"ROOT", "ERROR"⟩], [⟨"a", "WARN"⟩], none, none⟩]
    let last := ⟨[⟨"a.b", "TRACE"⟩], [⟨"a.b", "ERROR"⟩], none, none⟩
    (∀ e ∈ last.logLevels ++ last.samplingLogLevels, ∀ n ∈ LoggerName.walk "a.bc.d",
      e.threshold? (Registry.create t).available n = none) ∧
    Alike ((create t).run (earlier ++ [last])) (create t) "a.bc.d" := by
  intro t earlier last
  have silent : ∀ e ∈ last.logLevels ++ last.samplingLogLevels,
      ∀ n ∈ LoggerName.walk "a.bc.d", e.threshold? (Registry.create t).available n = none := by
    decide
  exact ⟨silent, (run_alike_of_last .info _ "a.bc.d" earlier [] last last).2 silent⟩

end TelemetryControl.Pipeline
