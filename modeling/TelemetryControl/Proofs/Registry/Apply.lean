/-
TelemetryControl.Proofs.Registry.Apply — one apply, name by name.

An apply runs over the entries of a snapshot and then over the loggers that
were dropped. Here both runs are replaced by what they come to for a single
name, over any registry and any tree.

* The tables hold the last threshold asked for (`get?_active_apply`,
  `get?_sampling_apply`).
* A baseline that was captured stays; a logger asked for without one gets
  the own level it had before the apply (`get?_baseline_apply`).
* A logger asked for has the clamped level, a dropped one its baseline, and
  any other keeps its level (`native?_apply`).
-/
import TelemetryControl.Proofs.LoggerTree.Levels
import TelemetryControl.Registry

namespace TelemetryControl

/-! ## 1. What entries ask for -/

/-- The threshold that an entry asks for one logger: its level, if that can be
read and the entry means this logger and the logger is available. -/
def LevelEntry.threshold? (available : NameTable Severity) (name : String) (e : LevelEntry) :
    Option Severity :=
  if LoggerName.normalize e.logger = name ∧ available.contains name then
    Severity.ofText? e.level
  else none

/-- The last threshold that a list of entries asks for one logger. -/
def lastThreshold? (available : NameTable Severity) (entries : List LevelEntry) (name : String) :
    Option Severity :=
  entries.reverse.findSome? (LevelEntry.threshold? available name)

theorem lastThreshold?_concat (available : NameTable Severity) (entries : List LevelEntry)
    (e : LevelEntry) (name : String) :
    lastThreshold? available (entries ++ [e]) name =
      (e.threshold? available name).or (lastThreshold? available entries name) := by
  unfold lastThreshold?
  rw [List.reverse_concat, List.findSome?_cons]
  cases e.threshold? available name <;> simp

/-- No threshold is asked for a logger exactly when no entry asks for one. -/
theorem lastThreshold?_eq_none_iff (available : NameTable Severity) (entries : List LevelEntry)
    (name : String) :
    lastThreshold? available entries name = none ↔
      ∀ e ∈ entries, e.threshold? available name = none := by
  simp [lastThreshold?]

/-- Only available loggers are asked for. -/
theorem contains_of_lastThreshold? {available : NameTable Severity} {entries : List LevelEntry}
    {name : String} {q : Severity} (h : lastThreshold? available entries name = some q) :
    available.contains name = true := by
  obtain ⟨e, -, he⟩ := List.exists_of_findSome?_eq_some h
  unfold LevelEntry.threshold? at he
  split at he
  · next asked => exact asked.2
  · cases he

namespace Registry

/-- The entry that holds up is the one that asks for a threshold. -/
theorem toOption_resolveEntry (r : Registry) (e : LevelEntry) :
    (r.resolveEntry e).toOption =
      (e.threshold? r.available (LoggerName.normalize e.logger)).map
        (fun s => (LoggerName.normalize e.logger, s)) := by
  unfold resolveEntry LevelEntry.threshold? Severity.parse
  cases level : Severity.ofText? e.level with
  | none => simp [Except.toOption]
  | some s =>
    cases known : r.available.contains (LoggerName.normalize e.logger) <;>
      simp [known, Except.toOption]

/-- The table of the accepted entries holds the last threshold of each logger. -/
theorem get?_ofList_accepted (r : Registry) (entries : List LevelEntry) (name : String) :
    (NameTable.ofList (r.accepted entries)).get? name =
      lastThreshold? r.available entries name := by
  induction entries using List.reverseRecOn with
  | nil => rfl
  | append_singleton entries e ih =>
    have accepted : r.accepted (entries ++ [e]) =
        r.accepted entries ++ (r.resolveEntry e).toOption.toList := by
      rw [Registry.accepted, Registry.accepted, List.filterMap_append]
      cases holds : (r.resolveEntry e).toOption <;> simp [holds]
    rw [accepted, toOption_resolveEntry, lastThreshold?_concat]
    by_cases meant : LoggerName.normalize e.logger = name
    · subst meant
      cases e.threshold? r.available (LoggerName.normalize e.logger) <;> simp [ih]
    · have silent : e.threshold? r.available name = none := by
        simp [LevelEntry.threshold?, meant]
      rw [silent, Option.none_or, ← ih]
      cases e.threshold? r.available (LoggerName.normalize e.logger) <;> simp [meant]

/-! ## 2. Installing -/

@[simp] theorem backend_native? (t : LoggerTree) (name : String) :
    LoggerBackend.native? t name = t.native? name := rfl

@[simp] theorem backend_setNative (t : LoggerTree) (name : String) (level : Option Severity) :
    LoggerBackend.setNative t name level = t.setNative name level := rfl

/-- The first install of a logger captures the level it had before them all. -/
theorem get?_baseline_foldl_install (r : Registry) (asks : List (String × Severity))
    (baseline : NameTable (Option Severity)) (t : LoggerTree) (name : String) :
    (asks.foldl r.install (baseline, t)).1.get? name =
      (baseline.get? name).or
        (if name ∈ asks.map Prod.fst then some (t.ownLevel? name) else none) := by
  induction asks generalizing baseline t with
  | nil => simp
  | cons ask rest ih =>
    rw [List.foldl_cons, install, ih, NameTable.get?_insertIfNew, Option.or_assoc]
    by_cases same : ask.1 = name
    · simp [same, LoggerTree.ownLevel?]
    · have other : ¬ name = ask.1 := fun h => same h.symm
      simp only [backend_setNative, LoggerTree.ownLevel?_setNative_of_ne _ _ same, same, other,
        List.map_cons, List.mem_cons, if_false, false_or, Option.none_or]

/-- Installing makes no logger known and none unknown. -/
theorem isSome_native?_foldl_install (r : Registry) (asks : List (String × Severity))
    (s : NameTable (Option Severity) × LoggerTree) (name : String) :
    ((asks.foldl r.install s).2.native? name).isSome = (s.2.native? name).isSome := by
  induction asks generalizing s with
  | nil => rfl
  | cons ask rest ih =>
    rw [List.foldl_cons, ih]
    simp [install]

/-- The ceiling of a logger looks at no baseline but its own. -/
theorem ceiling_congr (r : Registry) {baseline later : NameTable (Option Severity)} {name : String}
    (h : baseline.get? name = later.get? name) :
    r.ceiling baseline name = r.ceiling later name := by
  simp [ceiling, h]

/-- A known logger ends up with the last threshold asked for it, clamped. -/
theorem native?_foldl_install (r : Registry) (asks : List (String × Severity))
    (s : NameTable (Option Severity) × LoggerTree) (name : String) :
    (asks.foldl r.install s).2.native? name =
      match (NameTable.ofList asks).get? name with
      | some q => (s.2.native? name).map
          (fun _ => some (min (r.ceiling (asks.foldl r.install s).1 name) q))
      | none => s.2.native? name := by
  induction asks using List.reverseRecOn with
  | nil => rfl
  | append_singleton asks ask ih =>
    rw [List.foldl_concat, NameTable.ofList_concat, NameTable.get?_insert]
    have known := isSome_native?_foldl_install r asks s name
    generalize asks.foldl r.install s = mid at ih known
    by_cases same : ask.1 = name
    · -- The last entry is for this logger: it decides.
      subst same
      simp only [install, backend_setNative, if_true]
      rw [LoggerTree.native?_setNative]
      cases own : s.2.native? ask.1 with
      | none => simp_all
      | some level => simp_all
    · -- It is for another logger, whose capture leaves this ceiling alone.
      have untouched : (r.install mid ask).2.native? name = mid.2.native? name := by
        simp [install, LoggerTree.native?_setNative_of_ne _ _ same]
      have sameCeiling : r.ceiling (r.install mid ask).1 name = r.ceiling mid.1 name :=
        r.ceiling_congr (by simp [install, same])
      rw [untouched, sameCeiling, if_neg same, ih]

/-! ## 3. Restoring -/

/-- Restoring gives a known logger its baseline if one was captured, unless that
would leave the root without a level. -/
theorem native?_restore (baseline : NameTable (Option Severity)) (t : LoggerTree)
    (name other : String) :
    (restore baseline t name).native? other =
      if name = other ∧ ¬ (other = LoggerName.root ∧ baseline.get? other = some none) then
        (t.native? other).map (fun own => (baseline.get? other).getD own)
      else t.native? other := by
  unfold restore
  by_cases same : name = other
  · subst same
    cases captured : baseline.get? name with
    | none => simp
    | some level =>
      simp only [backend_setNative, LoggerTree.native?_setNative]
      cases own : t.native? name with
      | none => simp
      | some level' => by_cases cleared : name = LoggerName.root ∧ level = none <;> simp [cleared]
  · cases baseline.get? name <;> simp [same, LoggerTree.native?_setNative_of_ne]

/-- Restoring some loggers restores each of them and no other. -/
theorem native?_foldl_restore (baseline : NameTable (Option Severity)) (names : List String)
    (t : LoggerTree) (name : String) :
    (names.foldl (restore baseline) t).native? name =
      if name ∈ names ∧ ¬ (name = LoggerName.root ∧ baseline.get? name = some none) then
        (t.native? name).map (fun own => (baseline.get? name).getD own)
      else t.native? name := by
  induction names generalizing t with
  | nil => simp
  | cons n rest ih =>
    rw [List.foldl_cons, ih, native?_restore]
    by_cases kept : name = LoggerName.root ∧ baseline.get? name = some none
    · obtain ⟨rfl, cleared⟩ := kept
      simp [cleared]
    · by_cases same : n = name
      · -- Restoring a logger once more changes nothing.
        subst same
        simp only [kept, not_false_eq_true, and_true, List.mem_cons, true_or, if_true]
        cases baseline.get? n <;> cases t.native? n <;> simp
      · have other : ¬ name = n := fun h => same h.symm
        simp [same, other]

/-! ## 4. Creating and applying -/

/-- The loggers available to a registry are the known ones, at the level that was
in force for them. -/
theorem get?_available_create (t : LoggerTree) (name : String) :
    (create t).available.get? name = (t.native? name).map (fun _ => t.effective name) := by
  have known : name ∈ t.levels.names ↔ (t.native? name).isSome = true := by
    rw [NameTable.mem_names_iff, LoggerTree.contains_levels]
  show (NameTable.ofList (t.levels.names.map (fun n => (n, t.effective n)))).get? name = _
  rw [NameTable.get?_ofList_map]
  cases own : t.native? name <;> simp [known, own]

theorem contains_available_create (t : LoggerTree) (name : String) :
    (create t).available.contains name = (t.native? name).isSome := by
  simp [NameTable.contains, get?_available_create]

/-- The root level that a registry keeps is the one in force when it is made. -/
theorem rootLevel_create (t : LoggerTree) :
    (create t).rootLevel = t.effective LoggerName.root := by
  show ((create t).available.get? LoggerName.root).getD (t.effective LoggerName.root) = _
  rw [get?_available_create]
  cases t.native? LoggerName.root <;> rfl

section Apply

variable (r : Registry) (t : LoggerTree) (s : Snapshot) (name : String)

theorem get?_active_apply :
    (r.apply t s).registry.overrides.active.get? name =
      lastThreshold? r.available s.logLevels name :=
  r.get?_ofList_accepted s.logLevels name

theorem get?_sampling_apply :
    (r.apply t s).registry.overrides.sampling.get? name =
      lastThreshold? r.available s.samplingLogLevels name :=
  r.get?_ofList_accepted s.samplingLogLevels name

/-- A captured baseline stays; the own level of a logger asked for is captured
when there is none. -/
theorem get?_baseline_apply :
    (r.apply t s).registry.baseline.get? name =
      (r.baseline.get? name).or
        (if (r.apply t s).registry.overrides.active.contains name then some (t.ownLevel? name)
          else none) := by
  show ((r.accepted s.logLevels).foldl r.install (r.baseline, t)).1.get? name = _
  rw [get?_baseline_foldl_install]
  congr 1
  exact if_congr (NameTable.contains_ofList_iff _ _).symm rfl rfl

theorem mem_dropped_iff (active : NameTable Severity) :
    name ∈ r.dropped active ↔
      r.overrides.active.contains name = true ∧ active.get? name = none := by
  simp [dropped, NameTable.mem_names_iff, NameTable.contains_eq_false_iff]

/-- An apply installs what is asked for, then restores what was dropped. -/
theorem backend_apply :
    (r.apply t s).backend =
      ((r.dropped (r.apply t s).registry.overrides.active).filter
        (r.apply t s).registry.baseline.contains).foldl (restore (r.apply t s).registry.baseline)
          (r.installAll t (r.accepted s.logLevels)).2 := rfl

/-- What an apply does to the level of one logger. -/
theorem native?_apply :
    (r.apply t s).backend.native? name =
      match (r.apply t s).registry.overrides.active.get? name with
      | some q => (t.native? name).map
          (fun _ => some (min (r.ceiling (r.apply t s).registry.baseline name) q))
      | none =>
        if r.overrides.active.contains name ∧ ¬ (name = LoggerName.root ∧
            (r.apply t s).registry.baseline.get? name = some none) then
          (t.native? name).map
            (fun own => ((r.apply t s).registry.baseline.get? name).getD own)
        else t.native? name := by
  have installed : (r.installAll t (r.accepted s.logLevels)).2.native? name =
      match (r.apply t s).registry.overrides.active.get? name with
      | some q => (t.native? name).map
          (fun _ => some (min (r.ceiling (r.apply t s).registry.baseline name) q))
      | none => t.native? name :=
    r.native?_foldl_install (r.accepted s.logLevels) (r.baseline, t) name
  have restored : name ∈ (r.dropped (r.apply t s).registry.overrides.active).filter
        (r.apply t s).registry.baseline.contains ↔
      (r.overrides.active.contains name = true ∧
        (r.apply t s).registry.overrides.active.get? name = none) ∧
        (r.apply t s).registry.baseline.contains name = true := by
    rw [List.mem_filter, mem_dropped_iff]
  rw [backend_apply, native?_foldl_restore, installed]
  cases asked : (r.apply t s).registry.overrides.active.get? name with
  | some q =>
    rw [if_neg (fun h => by simpa [asked] using restored.mp h.1)]
  | none =>
    -- A logger without a captured baseline is not restored, and would keep its level.
    cases captured : (r.apply t s).registry.baseline.get? name with
    | none => simp
    | some level =>
      have known : (r.apply t s).registry.baseline.contains name = true :=
        (NameTable.contains_iff _ _).mpr ⟨level, captured⟩
      simp [restored, asked, known]

/-- An apply makes no logger known and none unknown. -/
theorem isSome_native?_apply :
    ((r.apply t s).backend.native? name).isSome = (t.native? name).isSome := by
  rw [native?_apply]
  split
  · simp
  · split <;> simp

end Apply

end Registry

end TelemetryControl
