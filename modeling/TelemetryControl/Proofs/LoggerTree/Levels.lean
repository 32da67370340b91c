/-
TelemetryControl.Proofs.LoggerTree.Levels — what a logger tree answers.

Two views of a tree carry all later proofs. `native?` says for every name
whether it is known and what level it has of its own, and each operation is
described by what it does to that view. `effective` is the answer of the
walk: a tree whose root has a level (`Rooted`) resolves every name, and the
built-in fallback is never reached (`resolve_ownLevel?`).

A list of registrations is described in one step: a logger has the level that the
list gives it last, or the one it had before (`ownLevel?_registerAll`).
-/
import TelemetryControl.LoggerTree
import TelemetryControl.Proofs.LoggerName.Walk
import TelemetryControl.Proofs.NameTable

namespace TelemetryControl.LoggerTree

/-! ## 1. Own levels -/

theorem contains_levels (t : LoggerTree) (name : String) :
    t.levels.contains name = (t.native? name).isSome := rfl

theorem ownLevel?_of_native? {t : LoggerTree} {name : String} {own : Option Severity}
    (h : t.native? name = some own) : t.ownLevel? name = own := by
  simp [ownLevel?, h]

/-- A known logger has its own level replaced, unless that would leave the root
without one. All else stays. -/
theorem native?_setNative (t : LoggerTree) (name other : String) (level : Option Severity) :
    (t.setNative name level).native? other =
      if name = other ∧ (t.native? other).isSome ∧ ¬ (other = LoggerName.root ∧ level = none) then
        some level
      else t.native? other := by
  unfold setNative
  split
  · next kept =>
    obtain ⟨rfl, rfl⟩ := kept
    by_cases same : LoggerName.root = other
    · subst same; simp
    · simp [same]
  · next changes =>
    rw [contains_levels]
    split
    · next known =>
      by_cases same : name = other
      · subst same
        rw [if_pos ⟨rfl, known, changes⟩]
        simp [native?]
      · simp [native?, same]
    · next unknown =>
      by_cases same : name = other
      · subst same; simp [unknown]
      · simp [same]

theorem native?_setNative_of_ne (t : LoggerTree) {name other : String} (level : Option Severity)
    (h : name ≠ other) : (t.setNative name level).native? other = t.native? other := by
  simp [native?_setNative, h]

theorem ownLevel?_setNative_of_ne (t : LoggerTree) {name other : String} (level : Option Severity)
    (h : name ≠ other) : (t.setNative name level).ownLevel? other = t.ownLevel? other :=
  congrArg Option.join (t.native?_setNative_of_ne level h)

/-- Replacing levels makes no logger known and none unknown. -/
@[simp] theorem isSome_native?_setNative (t : LoggerTree) (name other : String)
    (level : Option Severity) :
    ((t.setNative name level).native? other).isSome = (t.native? other).isSome := by
  rw [native?_setNative]
  split
  · next h => simp [h.2.1]
  · rfl

/-- Registering only fills in what is not known: a logger keeps its level
unless the very same logger is given another. -/
theorem native?_register (t : LoggerTree) (name other : String) (level : Option Severity) :
    (t.register name level).native? other =
      match level with
      | some s => if name = other then some (some s)
          else (t.native? other).or
            (if other ∈ LoggerName.ancestors name then some none else none)
      | none => (t.native? other).or
          (if other ∈ LoggerName.lineage name then some none else none) := by
  unfold register native?
  cases level with
  | some s => simp only [NameTable.get?_insert, NameTable.get?_foldl_insertIfNew]
  | none =>
    simp only [NameTable.get?_insertIfNew, NameTable.get?_foldl_insertIfNew, LoggerName.lineage,
      Option.or_assoc]
    by_cases same : name = other
    · subst same
      by_cases inside : name ∈ LoggerName.ancestors name <;> simp [inside]
    · have apart : ¬ other = name := fun h => same h.symm
      simp [same, apart]

/-- Registering makes known the logger and those that enclose it. -/
theorem isSome_native?_register (t : LoggerTree) (name other : String) (level : Option Severity) :
    ((t.register name level).native? other).isSome = true ↔
      (t.native? other).isSome = true ∨ other ∈ LoggerName.lineage name := by
  rw [native?_register]
  cases level with
  | none => by_cases inside : other ∈ LoggerName.lineage name <;> simp [inside]
  | some s =>
    by_cases same : name = other
    · simp [same, LoggerName.lineage]
    · have apart : ¬ other = name := fun h => same h.symm
      by_cases inside : other ∈ LoggerName.ancestors name <;>
        simp [same, apart, inside, LoggerName.lineage]

/-! ## 2. Trees with a level at the root -/

/-- The root is known and has a level of its own. -/
def Rooted (t : LoggerTree) : Prop :=
  ∃ s, t.native? LoggerName.root = some (some s)

theorem native?_new (root : Severity) (name : String) :
    (new root).native? name = if name = LoggerName.root then some (some root) else none := by
  rw [native?, new, NameTable.get?_insert, NameTable.get?_empty]
  exact if_congr eq_comm rfl rfl

theorem rooted_new (root : Severity) : (new root).Rooted :=
  ⟨root, by rw [native?_new, if_pos rfl]⟩

theorem ownLevel?_new (root : Severity) (name : String) :
    (new root).ownLevel? name = if name = LoggerName.root then some root else none := by
  rw [ownLevel?, native?_new]
  split <;> rfl

theorem Rooted.register {t : LoggerTree} (h : t.Rooted) (name : String) (level : Option Severity) :
    (t.register name level).Rooted := by
  obtain ⟨s, hs⟩ := h
  unfold Rooted
  rw [native?_register]
  cases level with
  | none => exact ⟨s, by simp [hs]⟩
  | some q =>
    by_cases same : name = LoggerName.root
    · exact ⟨q, by simp [same]⟩
    · exact ⟨s, by simp [same, hs]⟩

/-- The root's level can be replaced but not taken away. -/
theorem Rooted.setNative {t : LoggerTree} (h : t.Rooted) (name : String)
    (level : Option Severity) : (t.setNative name level).Rooted := by
  obtain ⟨s, hs⟩ := h
  unfold Rooted
  rw [native?_setNative]
  split
  · next changed =>
    cases level with
    | none => exact absurd ⟨rfl, rfl⟩ changed.2.2
    | some q => exact ⟨q, rfl⟩
  · exact ⟨s, hs⟩

theorem Rooted.ownLevel?_root {t : LoggerTree} (h : t.Rooted) :
    ∃ s, t.ownLevel? LoggerName.root = some s := by
  obtain ⟨s, hs⟩ := h
  exact ⟨s, ownLevel?_of_native? hs⟩

/-! ## 3. Effective levels -/

/-- The level in force is what the walk finds; it always finds one. -/
theorem Rooted.resolve_ownLevel? {t : LoggerTree} (h : t.Rooted) (name : String) :
    LoggerName.resolve t.ownLevel? name = some (t.effective name) := by
  obtain ⟨s, hs⟩ := h.ownLevel?_root
  simp only [LoggerName.resolve, LoggerName.walk, effective, rootLevel]
  split
  · next ends =>
    obtain ⟨before, hline⟩ := List.getLast?_eq_some_iff.mp ends
    rw [hline, List.findSome?_append]
    simp [hs]
  · rw [List.findSome?_append]
    simp [hs]

/-- A level that the walk finds is the level in force. -/
theorem Rooted.effective_eq_of_split {t : LoggerTree} (h : t.Rooted) {name decisive : String}
    {before after : List String} {s : Severity}
    (split : LoggerName.walk name = before ++ decisive :: after)
    (silent : ∀ n ∈ before, t.ownLevel? n = none) (found : t.ownLevel? decisive = some s) :
    t.effective name = s := by
  have resolved := LoggerName.resolve_of_split split silent found
  rw [h.resolve_ownLevel?] at resolved
  exact Option.some.inj resolved

/-- A logger inherits from a name on its walk when nothing before it has a level. -/
theorem Rooted.effective_inherited {t : LoggerTree} (h : t.Rooted) {name ancestor : String}
    {before after : List String} (split : LoggerName.walk name = before ++ ancestor :: after)
    (silent : ∀ n ∈ before, t.ownLevel? n = none) : t.effective name = t.effective ancestor := by
  have same := LoggerName.resolve_eq_of_split split silent
  rw [h.resolve_ownLevel?, h.resolve_ownLevel?] at same
  exact Option.some.inj same

/-- A level of its own is in force. -/
theorem effective_of_ownLevel? {t : LoggerTree} {name : String} {s : Severity}
    (h : t.ownLevel? name = some s) : t.effective name = s := by
  simp [effective, LoggerName.lineage, h]

theorem getD_ownLevel? (t : LoggerTree) (name : String) :
    (t.ownLevel? name).getD (t.effective name) = t.effective name := by
  cases own : t.ownLevel? name with
  | none => rfl
  | some s => rw [effective_of_ownLevel? own]; rfl

/-- Trees with a level at the root agree on a logger when they agree on its walk. -/
theorem Rooted.effective_congr {t u : LoggerTree} (ht : t.Rooted) (hu : u.Rooted) {name : String}
    (same : ∀ n ∈ LoggerName.walk name, t.native? n = u.native? n) :
    t.effective name = u.effective name := by
  have walks : LoggerName.resolve t.ownLevel? name = LoggerName.resolve u.ownLevel? name :=
    LoggerName.resolve_congr (fun n hn => congrArg Option.join (same n hn))
  rw [ht.resolve_ownLevel?, hu.resolve_ownLevel?] at walks
  exact Option.some.inj walks

/-! ## 4. Registering many loggers -/

/-- The level given last to a logger in a list of registrations. -/
def lastLevel? (loggers : List (String × Option Severity)) (name : String) : Option Severity :=
  loggers.reverse.findSome? (fun l => if l.1 = name then l.2 else none)

theorem lastLevel?_concat (loggers : List (String × Option Severity)) (l : String × Option Severity)
    (name : String) : lastLevel? (loggers ++ [l]) name =
      (if l.1 = name then l.2 else none).or (lastLevel? loggers name) := by
  unfold lastLevel?
  rw [List.reverse_concat, List.findSome?_cons]
  cases (if l.1 = name then l.2 else none) <;> simp

/-- Where no level is given none is the last one. -/
@[simp] theorem lastLevel?_inheriting (names : List String) (name : String) :
    lastLevel? (names.map (fun n => (n, none))) name = none := by
  simp [lastLevel?]

/-- Where every logger is given a level, the last one is that of the table of the list. -/
theorem lastLevel?_leveled (levels : List (String × Severity)) (name : String) :
    lastLevel? (levels.map (fun l => (l.1, some l.2))) name =
      (NameTable.ofList levels).get? name := by
  induction levels using List.reverseRecOn with
  | nil => rfl
  | append_singleton levels l ih =>
    rw [List.map_append, List.map_singleton, lastLevel?_concat, ih, NameTable.ofList_concat,
      NameTable.get?_insert]
    by_cases same : l.1 = name <;> simp [same]

/-- A logger is given its level, or keeps the one it had when it is given none. -/
theorem ownLevel?_register (t : LoggerTree) (name other : String) (level : Option Severity) :
    (t.register name level).ownLevel? other =
      (if name = other then level else none).or (t.ownLevel? other) := by
  rw [ownLevel?, ownLevel?, native?_register]
  -- Enclosing loggers that were not known become known, but without a level.
  have filled (known : Option (Option Severity)) (p : Prop) [Decidable p] :
      (known.or (if p then some none else none)).join = known.join := by
    by_cases holds : p <;> cases known <;> simp [holds]
  cases level with
  | none => rw [filled, ite_self, Option.none_or]
  | some s =>
    by_cases same : name = other
    · simp [same]
    · simp only [if_neg same, filled, Option.none_or]

theorem registerAll_concat (t : LoggerTree) (loggers : List (String × Option Severity))
    (l : String × Option Severity) :
    t.registerAll (loggers ++ [l]) = (t.registerAll loggers).register l.1 l.2 := by
  simp [registerAll]

theorem ownLevel?_registerAll (t : LoggerTree) (loggers : List (String × Option Severity))
    (name : String) : (t.registerAll loggers).ownLevel? name =
      (lastLevel? loggers name).or (t.ownLevel? name) := by
  induction loggers using List.reverseRecOn with
  | nil => rfl
  | append_singleton loggers l ih =>
    rw [registerAll_concat, ownLevel?_register, ih, lastLevel?_concat, Option.or_assoc]

theorem Rooted.registerAll {t : LoggerTree} (h : t.Rooted)
    (loggers : List (String × Option Severity)) : (t.registerAll loggers).Rooted :=
  List.foldlRecOn loggers _ h (fun _ rooted l _ => rooted.register l.1 l.2)

/-! ## 5. Equality -/

/-- Trees are equal when they know the same loggers with the same own levels. -/
theorem ext_native? {t u : LoggerTree} (h : ∀ name, t.native? name = u.native? name) : t = u := by
  obtain ⟨levels⟩ := t
  obtain ⟨others⟩ := u
  exact congrArg LoggerTree.mk (NameTable.ext_get? h)

end TelemetryControl.LoggerTree
