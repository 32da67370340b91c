/-
TelemetryControl.Proofs.Config.Loggers — the tree means what the configuration says.

A tree is grown from a configuration one logger after the other, in the order of
the names as written, and on the way loggers are made known that the
configuration does not speak of. None of this shows in the levels in force.
A logger that is registered with a level has that level until the same logger
is given another, so each has the level of the greatest spelling of its name
(`exists_tree_eq`), and the tree resolves like the table of these levels with the
configured level of the root beneath it (`effective_of_ownLevel?_eq`).

The main result is `tree_means_loggers`.
-/
import TelemetryControl.Proofs.Config.Startup
import TelemetryControl.Proofs.LoggerName.Resolution
import TelemetryControl.Proofs.LoggerTree.Levels
import TelemetryControl.Proofs.Text.Order

namespace TelemetryControl

/-- Going through a list succeeds with the values of its items. -/
theorem mapM_eq_ok_map {α β ε : Type} {f : α → Except ε β} {g : α → β} {l : List α}
    (h : ∀ a ∈ l, f a = .ok (g a)) : l.mapM f = .ok (l.map g) := by
  induction l with
  | nil => rfl
  | cons a rest ih =>
    rw [List.mapM_cons, h a List.mem_cons_self, ih (fun b hb => h b (List.mem_cons_of_mem a hb))]
    rfl

theorem Severity.parse_eq_ok {text : String} {s : Severity} (h : ofText? text = some s) :
    parse text = .ok s := by
  simp [parse, h]

/-! ## 1. A table over the root -/

/-- A tree that has the levels of a table, and one for the root where the table has
none, resolves like the table and falls back on that level. -/
theorem LoggerTree.Rooted.effective_of_ownLevel?_eq {t : LoggerTree} (h : t.Rooted)
    {levels : NameTable Severity} {rootLevel : Severity}
    (own : ∀ name, t.ownLevel? name =
      (levels.get? name).or (if name = LoggerName.root then some rootLevel else none))
    (name : String) :
    t.effective name = (LoggerName.resolve levels.get? name).getD rootLevel := by
  -- Whatever is longer than some name is not the root.
  have longer {key k : String} (less : key.length < k.length) : k ≠ LoggerName.root := by
    rintro rfl
    exact absurd less (Nat.not_lt_zero _)
  have resolved : LoggerName.resolve t.ownLevel? name =
      some ((LoggerName.resolve levels.get? name).getD rootLevel) := by
    rw [LoggerName.resolve_eq_some_iff]
    cases found : LoggerName.resolve levels.get? name with
    | some s =>
      obtain ⟨key, level, governs, silent⟩ := LoggerName.resolve_eq_some_iff.mp found
      refine ⟨key, by simp [own, level], governs, fun k other less => ?_⟩
      simp [own, silent k other less, longer less]
    | none =>
      have absent := LoggerName.resolve_eq_none_iff.mp found
      have top : LoggerName.Governs LoggerName.root name := .inr (.inr rfl)
      refine ⟨LoggerName.root, by simp [own, absent _ top], top, fun k other less => ?_⟩
      simp [own, absent k other, longer less]
  rw [h.resolve_ownLevel?] at resolved
  exact Option.some.inj resolved

namespace Config

/-! ## 2. The levels that a configuration gives -/

section Read

variable {c : Config} {read : String → Severity}

/-- The configured levels under the names that are meant. -/
def levelTable (c : Config) (read : String → Severity) : NameTable Severity :=
  .ofList (c.loggers.toList.map (fun l => (LoggerName.normalize l.1, read l.2)))

/-- A logger is in the table when some key means it. -/
theorem contains_levelTable_iff (c : Config) (read : String → Severity) (name : String) :
    (c.levelTable read).contains name = true ↔
      ∃ key, c.loggers.contains key = true ∧ LoggerName.normalize key = name := by
  have meanings : (c.loggers.toList.map (fun l => (LoggerName.normalize l.1, read l.2))).map
      Prod.fst = c.loggers.toList.map (fun l => LoggerName.normalize l.1) := by
    simp only [List.map_map, Function.comp_def]
  rw [levelTable, NameTable.contains_ofList_iff, meanings, List.mem_map]
  constructor
  · rintro ⟨⟨key, level⟩, listed, meant⟩
    exact ⟨key, (NameTable.contains_iff _ _).mpr
      ⟨level, (NameTable.mem_entries_iff _ _ _).mp listed⟩, meant⟩
  · rintro ⟨key, listed, meant⟩
    obtain ⟨level, found⟩ := (NameTable.contains_iff _ _).mp listed
    exact ⟨(key, level), (NameTable.mem_entries_iff _ _ _).mpr found, meant⟩

theorem get?_levelTable_eq_none_iff (c : Config) (read : String → Severity) (name : String) :
    (c.levelTable read).get? name = none ↔
      ∀ key, c.loggers.contains key = true → LoggerName.normalize key ≠ name := by
  rw [← NameTable.contains_eq_false_iff, ← Bool.not_eq_true, contains_levelTable_iff]
  simp only [not_exists, not_and, ne_eq]

/-- Of the keys that mean a logger the greatest one gives its level. -/
theorem get?_levelTable_eq_some_iff {name : String} {s : Severity} :
    (c.levelTable read).get? name = some s ↔
      ∃ key level, c.loggers.get? key = some level ∧ LoggerName.normalize key = name ∧
        read level = s ∧ ∀ other, c.loggers.contains other = true →
          LoggerName.normalize other = name → other ≤ key :=
  NameTable.get?_ofList_respelt c.loggers LoggerName.normalize read name s

/-- Where every level text can be read there is a tree, and it has the levels of the
table and the configured level of the root beneath it. -/
theorem exists_tree_eq
    (reads : ∀ text ∈ c.levelTexts, Severity.ofText? text = some (read text)) :
    ∃ t, c.tree = .ok t ∧ t.Rooted ∧ ∀ name, t.ownLevel? name =
      ((c.levelTable read).get? name).or
        (if name = LoggerName.root then some (read c.observability.logLevel) else none) := by
  have rootRead : Severity.parse c.observability.logLevel =
      .ok (read c.observability.logLevel) :=
    Severity.parse_eq_ok (reads _ List.mem_cons_self)
  have levelsRead : c.loggerLevels =
      .ok (c.loggers.toList.map (fun l => (LoggerName.normalize l.1, read l.2))) := by
    refine mapM_eq_ok_map (fun l listed => ?_)
    have text : l.2 ∈ c.levelTexts := List.mem_cons_of_mem _ (List.mem_map_of_mem listed)
    rw [Severity.parse_eq_ok (reads l.2 text)]
    rfl
  refine ⟨_, by rw [tree, rootRead, levelsRead],
    ((LoggerTree.rooted_new _).registerAll _).registerAll _, fun name => ?_⟩
  -- The agent's own loggers inherit, so they leave no level behind.
  rw [LoggerTree.ownLevel?_registerAll, LoggerTree.lastLevel?_leveled,
    LoggerTree.ownLevel?_registerAll, LoggerTree.lastLevel?_inheriting, Option.none_or,
    LoggerTree.ownLevel?_new, levelTable]

end Read

/-! ## 3. The key that decides -/

/-- A key of the configured loggers that decides for a logger: what it means governs
the logger, nothing longer that governs it is configured, and of the keys that
mean the same it is the greatest by its octets. -/
structure Decides (c : Config) (key name : String) : Prop where
  listed : c.loggers.contains key = true
  governs : LoggerName.Governs (LoggerName.normalize key) name
  longest : ∀ other, c.loggers.contains other = true →
    LoggerName.Governs (LoggerName.normalize other) name →
    (LoggerName.normalize other).length ≤ (LoggerName.normalize key).length
  greatest : ∀ other, c.loggers.contains other = true →
    LoggerName.normalize other = LoggerName.normalize key → Text.octets other ≤ Text.octets key

instance (c : Config) (key name : String) : Decidable (c.Decides key name) :=
  decidable_of_iff
    (c.loggers.contains key = true ∧ LoggerName.Governs (LoggerName.normalize key) name ∧
      (∀ other ∈ c.loggers.names, LoggerName.Governs (LoggerName.normalize other) name →
        (LoggerName.normalize other).length ≤ (LoggerName.normalize key).length) ∧
      ∀ other ∈ c.loggers.names,
        LoggerName.normalize other = LoggerName.normalize key → other ≤ key)
    (by
      simp only [NameTable.mem_names_iff, Text.le_iff_octets_le]
      exact ⟨fun ⟨listed, governs, longest, greatest⟩ => ⟨listed, governs, longest, greatest⟩,
        fun h => ⟨h.listed, h.governs, h.longest, h.greatest⟩⟩)

variable {c : Config} {read : String → Severity} {key name : String}

/-- The level that is resolved for a logger is that of the key that decides. -/
theorem Decides.resolve_levelTable (h : c.Decides key name) {level : String}
    (found : c.loggers.get? key = some level) :
    LoggerName.resolve (c.levelTable read).get? name = some (read level) := by
  have given : (c.levelTable read).get? (LoggerName.normalize key) = some (read level) :=
    get?_levelTable_eq_some_iff.mpr ⟨key, level, found, rfl, rfl, fun other listed meant =>
      (Text.le_iff_octets_le other key).mpr (h.greatest other listed meant)⟩
  refine LoggerName.resolve_eq_some_iff.mpr ⟨_, given, h.governs, fun k governs longer => ?_⟩
  refine (get?_levelTable_eq_none_iff c read k).mpr ?_
  rintro other listed rfl
  exact absurd longer (Nat.not_lt.mpr (h.longest other listed governs))

/-- Where a level is resolved some key decides. -/
theorem exists_decides_of_resolve {s : Severity}
    (resolved : LoggerName.resolve (c.levelTable read).get? name = some s) :
    ∃ key, c.Decides key name := by
  obtain ⟨meant, given, governs, silent⟩ := LoggerName.resolve_eq_some_iff.mp resolved
  obtain ⟨key, level, found, rfl, -, greatest⟩ := get?_levelTable_eq_some_iff.mp given
  refine ⟨key, (NameTable.contains_iff _ _).mpr ⟨level, found⟩, governs, ?longest, ?greatest⟩
  case longest =>
    intro other listed governs'
    refine Nat.not_lt.mp fun longer => ?_
    have absent := silent _ governs' longer
    exact (get?_levelTable_eq_none_iff c read _).mp absent other listed rfl
  case greatest =>
    exact fun other listed meant => (Text.le_iff_octets_le other key).mp (greatest other listed meant)

/-- **The tree means what the configuration says.** When every level text of a
configuration can be read there is a tree, and in it the level in force for
any logger, known or not, is the one configured for the key that decides: the
longest that means the logger itself, one that encloses it, or the root, and
of several spellings of one name the greatest by its octets. Such a key there
is as soon as any key governs the logger; when none does, the level in force is
that of the observability settings. Nothing else counts: not the order in which
loggers are registered, nor what is registered besides. -/
theorem tree_means_loggers (c : Config)
    (readable : ∀ text ∈ c.levelTexts, (Severity.ofText? text).isSome = true) :
    ∃ t, c.tree = .ok t ∧ ∀ name,
      (∀ key level, c.Decides key name → c.loggers.get? key = some level →
        Severity.ofText? level = some (t.effective name)) ∧
      ((∃ key, c.loggers.contains key = true ∧
        LoggerName.Governs (LoggerName.normalize key) name) → ∃ key, c.Decides key name) ∧
      ((∀ key, c.loggers.contains key = true →
        ¬ LoggerName.Governs (LoggerName.normalize key) name) →
          Severity.ofText? c.observability.logLevel = some (t.effective name)) := by
  obtain ⟨read, reads⟩ : ∃ read : String → Severity,
      ∀ text ∈ c.levelTexts, Severity.ofText? text = some (read text) :=
    ⟨fun text => (Severity.ofText? text).getD .info, fun text listed => by
      obtain ⟨s, hs⟩ := Option.isSome_iff_exists.mp (readable text listed)
      simp [hs]⟩
  obtain ⟨t, grown, rooted, own⟩ := exists_tree_eq reads
  have effective (name : String) := rooted.effective_of_ownLevel?_eq own name
  refine ⟨t, grown, fun name => ⟨?decided, ?decides, ?silent⟩⟩
  case decided =>
    intro key level decides found
    have text : level ∈ c.levelTexts :=
      List.mem_cons_of_mem _ (List.mem_map.mpr
        ⟨(key, level), (NameTable.mem_entries_iff _ _ _).mpr found, rfl⟩)
    rw [reads level text, effective, decides.resolve_levelTable found, Option.getD_some]
  case decides =>
    rintro ⟨key, listed, governs⟩
    cases resolved : LoggerName.resolve (c.levelTable read).get? name with
    | some s => exact exists_decides_of_resolve resolved
    | none =>
      have absent := LoggerName.resolve_eq_none_iff.mp resolved _ governs
      exact absurd rfl ((get?_levelTable_eq_none_iff c read _).mp absent key listed)
  case silent =>
    intro ungoverned
    have nothing : LoggerName.resolve (c.levelTable read).get? name = none := by
      refine LoggerName.resolve_eq_none_iff.mpr fun k governs => ?_
      refine (get?_levelTable_eq_none_iff c read k).mpr ?_
      rintro key listed rfl
      exact ungoverned key listed governs
    rw [reads _ List.mem_cons_self, effective, nothing, Option.getD_none]

/-- Two spellings of one logger and two of the root, of which the greater ones decide;
and a configuration of a single logger, which leaves the one around it alone. -/
theorem tree_means_loggers_of_several_spellings :
    let c : Config :=
      { Config.default with
        loggers := .ofList [("a.b ", "Error"), (" a.b", "WARN"), ("a", " trace"), ("Root", "debug"),
          ("ROOT", "warn")] }
    let alone : Config := { Config.default with loggers := .ofList [("a.b", "trace")] }
    ((∀ text ∈ c.levelTexts ++ alone.levelTexts, (Severity.ofText? text).isSome = true) ∧
      c.Decides "a.b " "a.b.c" ∧ c.Decides "Root" "telemetry_dial.admin") ∧
    (∃ t, c.tree = .ok t ∧ t.effective "a.b.c" = .error ∧
      t.effective "telemetry_dial.admin" = .debug) ∧
    ∃ t, alone.tree = .ok t ∧ t.effective "a" = .info := by
  intro c alone
  have readable : ∀ text ∈ c.levelTexts ++ alone.levelTexts,
      (Severity.ofText? text).isSome = true := by decide
  have inner : c.Decides "a.b " "a.b.c" := by decide
  have top : c.Decides "Root" "telemetry_dial.admin" := by decide
  have ungoverned : ∀ key, alone.loggers.contains key = true →
      ¬ LoggerName.Governs (LoggerName.normalize key) "a" := by
    intro key listed
    obtain rfl : key = "a.b" := by
      simpa using (NameTable.contains_ofList_iff [("a.b", "trace")] key).mp listed
    decide
  obtain ⟨t, grown, means⟩ :=
    tree_means_loggers c (fun text listed => readable text (List.mem_append_left _ listed))
  obtain ⟨u, grownAlone, meansAlone⟩ :=
    tree_means_loggers alone (fun text listed => readable text (List.mem_append_right _ listed))
  have error := (means "a.b.c").1 "a.b " "Error" inner (by decide)
  have debug := (means "telemetry_dial.admin").1 "Root" "debug" top (by decide)
  have info := (meansAlone "a").2.2 ungoverned
  rw [show Severity.ofText? "Error" = some .error by decide, Option.some.injEq] at error
  rw [show Severity.ofText? "debug" = some .debug by decide, Option.some.injEq] at debug
  rw [show Severity.ofText? alone.observability.logLevel = some .info by decide,
    Option.some.injEq] at info
  exact ⟨⟨readable, inner, top⟩, ⟨t, grown, error.symm, debug.symm⟩, ⟨u, grownAlone, info.symm⟩⟩

end Config

end TelemetryControl
