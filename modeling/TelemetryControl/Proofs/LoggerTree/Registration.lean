/-
TelemetryControl.Proofs.LoggerTree.Registration — what registering leaves behind.

A registration writes to more loggers than the one it names: it makes known
every logger that encloses it, and whether anything is written there depends on
what was registered before. The tree in the end tells nothing of this. It has two
halves, the loggers that are known and the levels that some of them have, and it
is nothing but these (`ext_ownLevel?`).

* A run of registrations makes known the loggers that it names and those that
  enclose them (`isSome_native?_registerAll`).
* A level is only ever replaced by another for the very same logger, so the last
  one given stays (`lastLevel?_eq_some_iff`), and a run that gives a known logger
  no level leaves it as it is (`native?_registerAll_of_silent`).
* In neither half can it be seen which of two different loggers was registered
  first (`register_comm`), so a list of different loggers can be registered in
  any order (`registerAll_perm`).

The main result is `registering_leaves_last_levels`.
-/
import Mathlib.Data.List.Nodup
import TelemetryControl.Proofs.LoggerName.Resolution
import TelemetryControl.Proofs.LoggerTree.Levels

namespace TelemetryControl.LoggerTree

variable {t u : LoggerTree} {loggers : List (String × Option Severity)} {name : String}
  {s : Severity}

/-! ## 1. The two halves of a tree -/

theorem native?_eq_some_iff {own : Option Severity} :
    t.native? name = some own ↔ (t.native? name).isSome = true ∧ t.ownLevel? name = own := by
  rw [ownLevel?]
  cases t.native? name <;> simp

/-- A logger with a level is known. -/
theorem native?_eq_some_some_iff : t.native? name = some (some s) ↔ t.ownLevel? name = some s :=
  Option.join_eq_some_iff.symm

/-- Trees are equal when they know the same loggers and these have the same levels. -/
theorem ext_ownLevel?
    (known : ∀ name, (t.native? name).isSome = true ↔ (u.native? name).isSome = true)
    (own : ∀ name, t.ownLevel? name = u.ownLevel? name) : t = u := by
  refine ext_native? fun name => Option.ext fun level => ?_
  rw [native?_eq_some_iff, native?_eq_some_iff, known name, own name]

/-! ## 2. The last level of a list -/

/-- A level is the last one that a list of registrations gives to a logger: the list
gives it, and nothing that comes later gives the logger another. -/
def GivenLast (loggers : List (String × Option Severity)) (name : String) (s : Severity) : Prop :=
  ∃ before after, loggers = before ++ (name, some s) :: after ∧ ∀ q, (name, some q) ∉ after

/-- What one registration gives to a logger. -/
theorem given_eq_some_iff {l : String × Option Severity} :
    (if l.1 = name then l.2 else none) = some s ↔ l = (name, some s) := by
  obtain ⟨registered, level⟩ := l
  by_cases same : registered = name <;> simp [same]

theorem given_eq_none_iff {l : String × Option Severity} :
    (if l.1 = name then l.2 else none) = none ↔ ∀ q, l ≠ (name, some q) := by
  rw [Option.eq_none_iff_forall_ne_some]
  exact forall_congr' fun q => not_congr given_eq_some_iff

theorem lastLevel?_eq_none_iff :
    lastLevel? loggers name = none ↔ ∀ q, (name, some q) ∉ loggers := by
  rw [lastLevel?, List.findSome?_eq_none_iff]
  simp only [List.mem_reverse, given_eq_none_iff]
  constructor
  · intro silent q listed
    exact silent _ listed q rfl
  · rintro absent l listed q rfl
    exact absent q listed

theorem lastLevel?_eq_some_iff : lastLevel? loggers name = some s ↔ GivenLast loggers name s := by
  rw [lastLevel?, List.findSome?_eq_some_iff]
  simp only [given_eq_some_iff, given_eq_none_iff]
  constructor
  · rintro ⟨later, _, earlier, split, rfl, silent⟩
    refine ⟨earlier.reverse, later.reverse, ?_, fun q listed => ?_⟩
    · rw [← List.reverse_reverse loggers, split]
      simp
    · exact silent _ (List.mem_reverse.mp listed) q rfl
  · rintro ⟨before, after, rfl, silent⟩
    refine ⟨after.reverse, _, before.reverse, by simp, rfl, ?_⟩
    rintro l listed q rfl
    exact silent q (List.mem_reverse.mp listed)

instance (loggers : List (String × Option Severity)) (name : String) (s : Severity) :
    Decidable (GivenLast loggers name s) :=
  decidable_of_iff (lastLevel? loggers name = some s) lastLevel?_eq_some_iff

/-! ## 3. A run of registrations -/

/-- A run makes known the loggers that it names and those that enclose them. -/
theorem isSome_native?_registerAll (t : LoggerTree) (loggers : List (String × Option Severity))
    (name : String) : ((t.registerAll loggers).native? name).isSome = true ↔
      (t.native? name).isSome = true ∨ ∃ l ∈ loggers, name ∈ LoggerName.lineage l.1 := by
  induction loggers using List.reverseRecOn with
  | nil => simp [registerAll]
  | append_singleton loggers l ih =>
    rw [registerAll_concat, isSome_native?_register, ih]
    simp only [List.mem_append, List.mem_singleton, or_and_right, exists_or, exists_eq_left,
      or_assoc]

/-- What is known stays as it is where a run gives it no level, even when the run
registers it again or registers what it encloses. -/
theorem native?_registerAll_of_silent {own : Option Severity} (known : t.native? name = some own)
    (silent : ∀ q, (name, some q) ∉ loggers) :
    (t.registerAll loggers).native? name = some own := by
  obtain ⟨listed, level⟩ := native?_eq_some_iff.mp known
  refine native?_eq_some_iff.mpr ⟨?_, ?_⟩
  · exact (isSome_native?_registerAll t loggers name).mpr (.inl listed)
  · rw [ownLevel?_registerAll, lastLevel?_eq_none_iff.mpr silent, Option.none_or, level]

/-! ## 4. Any order -/

/-- It cannot be seen which of two different loggers was registered first. -/
theorem register_comm (t : LoggerTree) {first second : String} (apart : first ≠ second)
    (a b : Option Severity) :
    (t.register first a).register second b = (t.register second b).register first a := by
  refine ext_ownLevel? (fun name => ?known) (fun name => ?own)
  -- Who is known is a union, and a logger has at most one of the two names.
  case known =>
    simp only [isSome_native?_register]
    exact or_right_comm
  case own =>
    simp only [ownLevel?_register]
    by_cases given : first = name
    · have other : second ≠ name := fun same => apart (given.trans same.symm)
      simp [other]
    · simp [given]

/-- Different loggers can be registered in any order. -/
theorem registerAll_perm (t : LoggerTree) {others : List (String × Option Severity)}
    (reordered : loggers.Perm others) (distinct : (loggers.map Prod.fst).Nodup) :
    t.registerAll loggers = t.registerAll others := by
  refine reordered.foldl_eq' (fun l listed m listed' t => ?_) t
  -- Two registrations of one logger are the same one, as no other has that name.
  by_cases same : l.1 = m.1
  · rw [List.inj_on_of_nodup_map distinct listed listed' same]
  · exact t.register_comm same l.2 m.2

/-! ## 5. What is left behind -/

theorem isSome_native?_new (root : Severity) (name : String) :
    ((new root).native? name).isSome = true ↔ name = LoggerName.root := by
  rw [native?_new]
  by_cases top : name = LoggerName.root <;> simp [top]

/-- The root is known from the start, and every other logger from the first registration
that it governs. -/
theorem isSome_native?_registerAll_new (root : Severity)
    (loggers : List (String × Option Severity)) (name : String) :
    (((new root).registerAll loggers).native? name).isSome = true ↔
      name = LoggerName.root ∨ ∃ l ∈ loggers, LoggerName.Governs name l.1 := by
  rw [isSome_native?_registerAll, isSome_native?_new]
  by_cases top : name = LoggerName.root
  · simp [top]
  · simp only [top, LoggerName.mem_lineage_iff, LoggerName.Governs, or_false]

/-- The root starts with a level, and all other levels are given. -/
theorem ownLevel?_registerAll_new (root : Severity) :
    ((new root).registerAll loggers).ownLevel? name = some s ↔
      GivenLast loggers name s ∨
        (name = LoggerName.root ∧ s = root ∧ ∀ q, (name, some q) ∉ loggers) := by
  rw [ownLevel?_registerAll, Option.or_eq_some_iff, lastLevel?_eq_some_iff, lastLevel?_eq_none_iff,
    ownLevel?_new]
  by_cases top : name = LoggerName.root
  · simp [top, eq_comm, and_comm]
  · simp [top]

/-- **What registering leaves behind.** After any list of registrations the known
loggers are the root, the loggers registered and those that enclose them, each
a name cut off before a dot. A logger has the level that the list gives it last;
where the list gives it none the root has the level it started with, and any
other known logger inherits. So different loggers can be registered in any
order, and what is registered later changes nothing about a known logger
unless it gives that very logger a level: not by registering it without one,
and not by registering what it encloses. -/
theorem registering_leaves_last_levels (root : Severity)
    (loggers : List (String × Option Severity)) :
    let t := (new root).registerAll loggers
    (∀ name, (t.native? name).isSome = true ↔
      name = LoggerName.root ∨ ∃ l ∈ loggers, LoggerName.Governs name l.1) ∧
    (∀ name s, t.native? name = some (some s) ↔
      GivenLast loggers name s ∨
        (name = LoggerName.root ∧ s = root ∧ ∀ q, (name, some q) ∉ loggers)) ∧
    (∀ name, t.native? name = some none ↔
      name ≠ LoggerName.root ∧ (∃ l ∈ loggers, LoggerName.Governs name l.1) ∧
        ∀ q, (name, some q) ∉ loggers) ∧
    (∀ others, loggers.Perm others → (loggers.map Prod.fst).Nodup →
      (new root).registerAll others = t) ∧
    ∀ more name own, t.native? name = some own → (∀ q, (name, some q) ∉ more) →
      (t.registerAll more).native? name = some own := by
  intro t
  have known := isSome_native?_registerAll_new root loggers
  refine ⟨known, ?levels, ?inheriting, ?reordered, ?kept⟩
  case levels =>
    intro name s
    rw [native?_eq_some_some_iff, ownLevel?_registerAll_new]
  case inheriting =>
    intro name
    rw [native?_eq_some_iff, known, ownLevel?_registerAll, Option.or_eq_none_iff,
      lastLevel?_eq_none_iff, ownLevel?_new]
    by_cases top : name = LoggerName.root
    · simp [top]
    · simp [top]
  case reordered =>
    intro others reordered distinct
    exact (registerAll_perm _ reordered distinct).symm
  case kept =>
    intro more name own found silent
    exact native?_registerAll_of_silent found silent

/-- Dots at the start, at the end and side by side: `a.` encloses `a..b` and is given a
level before it or after it, which later registrations around it leave alone. -/
theorem registering_leaves_last_levels_in_reverse :
    let loggers : List (String × Option Severity) :=
      [(".a", some .warn), ("a..b", none), ("a.", some .trace)]
    let more : List (String × Option Severity) :=
      [("a..b.c", some .error), ("a.", none), ("a..b", some .debug), ("a..b", none)]
    let t := (new .info).registerAll loggers
    ((loggers.Perm loggers.reverse ∧ (loggers.map Prod.fst).Nodup) ∧
      t.native? "a." = some (some .trace) ∧ ∀ q, ("a.", some q) ∉ more) ∧
    (new .info).registerAll loggers.reverse = t ∧
    (t.registerAll more).native? "a." = some (some .trace) ∧
    t.native? "a" = some none ∧ t.native? LoggerName.root = some (some .info) := by
  intro loggers more t
  have different : (loggers.map Prod.fst).Nodup := by decide
  have silent : ∀ q, ("a.", some q) ∉ more := lastLevel?_eq_none_iff.mp (by decide)
  obtain ⟨-, levels, inheriting, reordered, kept⟩ := registering_leaves_last_levels .info loggers
  have trace : t.native? "a." = some (some .trace) := (levels "a." .trace).mpr (.inl (by decide))
  have encloses : LoggerName.Governs "a" "a..b" := by decide
  have inherits : t.native? "a" = some none :=
    (inheriting "a").mpr ⟨by decide, ⟨("a..b", none), by decide, encloses⟩,
      lastLevel?_eq_none_iff.mp (by decide)⟩
  have top : t.native? LoggerName.root = some (some .info) :=
    (levels LoggerName.root .info).mpr (.inr ⟨rfl, rfl, lastLevel?_eq_none_iff.mp (by decide)⟩)
  have reversed : loggers.Perm loggers.reverse := loggers.reverse_perm.symm
  exact ⟨⟨⟨reversed, different⟩, trace, silent⟩, reordered _ reversed different,
    kept more "a." (some .trace) trace silent, inherits, top⟩

end TelemetryControl.LoggerTree
