/-
TelemetryControl.Proofs.Config.Startup — a configuration without problems starts.

What is wrong with a configuration is found out before anything is made from
it: levels, ratio, source and interval are judged once by `problems`, and
each again by whoever uses it. The two never disagree. For the levels both
sides come down to the same question, whether some level text names no
severity (`exists_invalidLevel_iff`, `exists_tree_eq_error_iff`), whatever
the order in which they look.

The main result is `start_of_no_problems`. Only the surroundings can still
keep such an agent from starting: a directory that cannot be watched, or an
address that cannot be listened on. One that is started has the parts that its
configuration makes (`Agent.of_start_eq_ok`).
-/
import TelemetryControl.Agent
import TelemetryControl.Config.Loggers
import TelemetryControl.Config.Problem
import Mathlib.Data.List.Basic

namespace TelemetryControl

theorem exists_eq_ok_iff {α ε : Type} (x : Except ε α) :
    (∃ a, x = .ok a) ↔ ¬ ∃ e, x = .error e := by
  cases x <;> simp

/-- Going through a list fails exactly when it fails at some item. -/
theorem exists_mapM_eq_error_iff {α β ε : Type} (f : α → Except ε β) (l : List α) :
    (∃ e, l.mapM f = .error e) ↔ ∃ a ∈ l, ∃ e, f a = .error e := by
  induction l with
  | nil => simp [pure, Except.pure]
  | cons a rest ih =>
    simp only [List.mapM_cons, List.mem_cons, exists_eq_or_imp, ← ih]
    cases f a with
    | error e => simp [bind, Except.bind]
    | ok b =>
      cases rest.mapM f with
      | error e => simp [bind, Except.bind]
      | ok bs => simp [bind, Except.bind, pure, Except.pure]

theorem Severity.exists_parse_eq_error_iff (text : String) :
    (∃ f, parse text = .error f) ↔ ofText? text = none := by
  unfold parse
  cases ofText? text <;> simp

namespace Config

variable {c : Config}

/-! ## 1. What is reported -/

theorem levelProblem?_eq_some_iff {field level : String} {p : ConfigProblem} :
    levelProblem? field level = some p ↔
      Severity.ofText? level = none ∧ p = .invalidLevel field level := by
  unfold levelProblem?
  cases Severity.ofText? level <;> simp [eq_comm]

/-- Each problem with the field that it is reported for. -/
theorem mem_problems_iff {p : ConfigProblem} :
    p ∈ c.problems ↔
      sourceProblem? c.control = some p ∨
      (c.control.pollIntervalSecs = 0 ∧ p = .zeroPollInterval) ∨
      (c.control.requestTimeoutSecs = 0 ∧ p = .zeroRequestTimeout) ∨
      (¬ c.control.initialSampleRatio.InUnitInterval ∧
        p = .invalidSampleRatio c.control.initialSampleRatio) ∨
      (Severity.ofText? c.observability.logLevel = none ∧
        p = .invalidLevel "observability.log_level" c.observability.logLevel) ∨
      (∃ name level, (name, level) ∈ c.loggers.toList ∧ Severity.ofText? level = none ∧
        p = .invalidLevel ("loggers." ++ name) level) ∨
      ((c.admin.enabled && Text.isBlankText c.admin.apiKey) = true ∧ p = .emptyApiKey) := by
  simp only [problems, List.mem_append, List.mem_ite_nil_right, List.mem_ite_nil_left,
    Option.mem_toList, List.mem_filterMap, levelProblem?_eq_some_iff, List.mem_singleton,
    Prod.exists, or_assoc]

/-- The problem of a source is one of its endpoint or of its path. -/
theorem eq_of_sourceProblem? {c : ControlConfig} {p : ConfigProblem}
    (found : sourceProblem? c = some p) : p = .invalidEndpoint c.endpoint ∨ p = .missingPath := by
  unfold sourceProblem? at found
  split at found <;> split at found <;> simp_all

theorem invalidSampleRatio_mem_problems_iff {ratio : Binary64} :
    ConfigProblem.invalidSampleRatio ratio ∈ c.problems ↔
      ratio = c.control.initialSampleRatio ∧ ¬ ratio.InUnitInterval := by
  have notSource : sourceProblem? c.control ≠ some (.invalidSampleRatio ratio) := fun found => by
    rcases eq_of_sourceProblem? found with is | is <;> cases is
  rw [mem_problems_iff]
  simp only [notSource, ConfigProblem.invalidSampleRatio.injEq, reduceCtorEq, and_false,
    exists_false, or_false, false_or]
  constructor
  · rintro ⟨outside, rfl⟩
    exact ⟨rfl, outside⟩
  · rintro ⟨rfl, outside⟩
    exact ⟨outside, rfl⟩

/-! ## 2. Levels -/

/-- Every level text of a configuration: the root's, then those of its loggers. -/
def levelTexts (c : Config) : List String :=
  c.observability.logLevel :: c.loggers.toList.map (·.2)

theorem exists_mem_levelTexts_iff (c : Config) (p : String → Prop) :
    (∃ text ∈ c.levelTexts, p text) ↔
      p c.observability.logLevel ∨ ∃ l ∈ c.loggers.toList, p l.2 := by
  simp only [levelTexts, List.mem_cons, exists_eq_or_imp, List.mem_map, exists_exists_and_eq_and]

theorem exists_invalidLevel_iff (c : Config) :
    (∃ field level, ConfigProblem.invalidLevel field level ∈ c.problems) ↔
      ∃ text ∈ c.levelTexts, Severity.ofText? text = none := by
  have notSource : ∀ field level,
      sourceProblem? c.control ≠ some (.invalidLevel field level) := fun field level found => by
    rcases eq_of_sourceProblem? found with is | is <;> cases is
  simp only [mem_problems_iff, notSource, ConfigProblem.invalidLevel.injEq, reduceCtorEq, and_false,
    or_false, false_or, exists_mem_levelTexts_iff]
  constructor
  · rintro ⟨field, level, ⟨bad, -⟩ | ⟨name, text, member, bad, -⟩⟩
    · exact .inl bad
    · exact .inr ⟨(name, text), member, bad⟩
  · rintro (bad | ⟨⟨name, level⟩, member, bad⟩)
    · exact ⟨_, _, .inl ⟨bad, rfl, rfl⟩⟩
    · exact ⟨_, _, .inr ⟨name, level, member, bad, rfl, rfl⟩⟩

theorem exists_loggerLevels_eq_error_iff (c : Config) :
    (∃ f, c.loggerLevels = .error f) ↔
      ∃ l ∈ c.loggers.toList, Severity.ofText? l.2 = none := by
  have failed : ∀ l : String × String,
      (∃ f, (Severity.parse l.2).map (fun s => (LoggerName.normalize l.1, s)) = .error f) ↔
        Severity.ofText? l.2 = none := by
    intro l
    rw [← Severity.exists_parse_eq_error_iff]
    cases Severity.parse l.2 <;> simp [Except.map]
  rw [loggerLevels, exists_mapM_eq_error_iff]
  simp only [failed]

theorem exists_tree_eq_error_iff (c : Config) :
    (∃ f, c.tree = .error f) ↔ ∃ text ∈ c.levelTexts, Severity.ofText? text = none := by
  rw [exists_mem_levelTexts_iff, ← exists_loggerLevels_eq_error_iff,
    ← Severity.exists_parse_eq_error_iff, tree]
  cases Severity.parse c.observability.logLevel with
  | error f => simp
  | ok root => cases c.loggerLevels <;> simp

/-! ## 3. Ratio and source -/

theorem exists_sampler_eq_error_iff (ratio : Binary64) :
    (∃ f, Sampler.new ratio = .error f) ↔ ¬ ratio.InUnitInterval := by
  unfold Sampler.new
  split <;> simp_all

theorem exists_source_eq_ok {c : ControlConfig} (fine : sourceProblem? c = none) :
    ∃ s, Source.ofConfig c = .ok s := by
  unfold sourceProblem? at fine
  unfold Source.ofConfig
  split at fine
  case h_1 web =>
    rw [web]
    have parsed : isWebEndpoint c.endpoint = true := by simpa using fine
    unfold isWebEndpoint at parsed
    simp only [Source.ofEndpoint]
    cases read : Url.parse c.endpoint with
    | error f => simp [read] at parsed
    | ok u => exact ⟨.endpoint u, rfl⟩
  case h_2 local_ =>
    rw [local_]
    cases named : c.path with
    | none => simp [named] at fine
    | some path => exact ⟨.file path, rfl⟩

end Config

/-! ## 4. Starting -/

namespace Agent

theorem eq_of_startWatch_eq_error {c : ControlConfig} {d : Directory} {f : StartFault}
    (failed : startWatch c d = .error f) : f = .unwatchable := by
  unfold startWatch at failed
  split at failed
  · cases failed
  · split at failed <;> cases failed
    rfl

theorem exists_eq_of_listen_eq_error {c : AdminConfig} {f : StartFault}
    (failed : listen c = .error f) : ∃ g, f = .cannotListen g := by
  unfold listen at failed
  split at failed
  · split at failed <;> cases failed
    exact ⟨_, rfl⟩
  · cases failed

/-- With a sampler and a source at hand only the surroundings can fail. -/
theorem eq_of_start_eq_error {c : Config} {sampler : Sampler} {source : Source}
    (ratio : Sampler.new c.control.initialSampleRatio = .ok sampler)
    (chosen : Source.ofConfig c.control = .ok source) {identity : String} {d : Directory}
    {p : Pipeline} {f : StartFault} (failed : start c identity d p = .error f) :
    f = .unwatchable ∨ ∃ g, f = .cannotListen g := by
  simp only [start, ratio, chosen] at failed
  split at failed
  · next unwatched =>
    cases failed
    exact .inl (eq_of_startWatch_eq_error unwatched)
  · split at failed
    · next unheard =>
      cases failed
      exact .inr (exists_eq_of_listen_eq_error unheard)
    · cases failed

/-- An agent that was started has the parts that its configuration makes. -/
theorem of_start_eq_ok {c : Config} {identity : String} {d : Directory} {p : Pipeline} {a : Agent}
    (started : start c identity d p = .ok a) :
    Sampler.new c.control.initialSampleRatio = .ok a.loop.control.sampler ∧
      Source.ofConfig c.control = .ok a.source ∧ startWatch c.control d = .ok a.watch ∧
      listen c.admin = .ok a.address ∧ a.interval = pollInterval c.control := by
  unfold start at started
  split at started
  · cases started
  next sampler ratio =>
    split at started
    · cases started
    next source chosen =>
      split at started
      · cases started
      next watch watched =>
        split at started
        · cases started
        next address heard =>
          cases started
          exact ⟨ratio, chosen, watched, heard, rfl⟩

/-- With a sampler and a source at hand it takes a watch and an address, where they are
wanted, and nothing else. -/
theorem exists_start_eq_ok_iff {c : Config} {sampler : Sampler} {source : Source}
    (ratio : Sampler.new c.control.initialSampleRatio = .ok sampler)
    (chosen : Source.ofConfig c.control = .ok source) (identity : String) (d : Directory)
    (p : Pipeline) : (∃ a, start c identity d p = .ok a) ↔
      (∃ w, startWatch c.control d = .ok w) ∧ ∃ s, listen c.admin = .ok s := by
  constructor
  · rintro ⟨a, started⟩
    obtain ⟨-, -, watched, heard, -⟩ := of_start_eq_ok started
    exact ⟨⟨_, watched⟩, ⟨_, heard⟩⟩
  · rintro ⟨⟨watch, watched⟩, ⟨address, heard⟩⟩
    simp only [start, ratio, chosen, watched, heard]
    exact ⟨_, rfl⟩

end Agent

namespace Config

/-- **A configuration without problems can be started.** Its loggers make a tree,
its ratio a sampler and its settings a source, and it polls as often as it
says, once a second at most. The agent then starts exactly when there is a watch
and an address where they are wanted, and fails only for a directory that cannot
be watched or an address that cannot be listened on. Problems or none, an agent
that was started has this sampler and this source and polls at this interval,
the tree fails exactly when a level is reported, and the sampler exactly when
the ratio is. -/
theorem start_of_no_problems (c : Config) :
    (c.problems = [] →
      (∃ t, c.tree = .ok t) ∧ (∃ s, Sampler.new c.control.initialSampleRatio = .ok s) ∧
      (∃ s, Source.ofConfig c.control = .ok s) ∧
      1 ≤ c.control.pollIntervalSecs ∧
      Agent.pollInterval c.control = c.control.pollIntervalSecs ∧
      (∀ identity d p f, Agent.start c identity d p = .error f →
        f = .unwatchable ∨ ∃ g, f = .cannotListen g) ∧
      ∀ identity d p, (∃ a, Agent.start c identity d p = .ok a) ↔
        (∃ w, Agent.startWatch c.control d = .ok w) ∧ ∃ s, Agent.listen c.admin = .ok s) ∧
    (∀ identity d p a, Agent.start c identity d p = .ok a →
      Sampler.new c.control.initialSampleRatio = .ok a.loop.control.sampler ∧
        Source.ofConfig c.control = .ok a.source ∧
        a.interval = Agent.pollInterval c.control) ∧
    ((∃ f, c.tree = .error f) ↔
      ∃ field level, ConfigProblem.invalidLevel field level ∈ c.problems) ∧
    ((∃ f, Sampler.new c.control.initialSampleRatio = .error f) ↔
      ∃ ratio, ConfigProblem.invalidSampleRatio ratio ∈ c.problems) := by
  have levels : (∃ f, c.tree = .error f) ↔
      ∃ field level, ConfigProblem.invalidLevel field level ∈ c.problems := by
    rw [exists_tree_eq_error_iff, exists_invalidLevel_iff]
  have ratio : (∃ f, Sampler.new c.control.initialSampleRatio = .error f) ↔
      ∃ ratio, ConfigProblem.invalidSampleRatio ratio ∈ c.problems := by
    simp [exists_sampler_eq_error_iff, invalidSampleRatio_mem_problems_iff]
  have yields : ∀ identity d p a, Agent.start c identity d p = .ok a →
      Sampler.new c.control.initialSampleRatio = .ok a.loop.control.sampler ∧
        Source.ofConfig c.control = .ok a.source ∧
        a.interval = Agent.pollInterval c.control := by
    intro identity d p a started
    obtain ⟨sampled, sourced, -, -, polls⟩ := Agent.of_start_eq_ok started
    exact ⟨sampled, sourced, polls⟩
  refine ⟨fun clean => ?starts, yields, levels, ratio⟩
  have fine : ∀ p, p ∉ c.problems := fun p => by simp [clean]
  have grown : ∃ t, c.tree = .ok t := by
    refine (exists_eq_ok_iff _).mpr fun failed => ?_
    obtain ⟨field, level, reported⟩ := levels.mp failed
    exact fine _ reported
  have sampled : ∃ s, Sampler.new c.control.initialSampleRatio = .ok s := by
    refine (exists_eq_ok_iff _).mpr fun failed => ?_
    obtain ⟨r, reported⟩ := ratio.mp failed
    exact fine _ reported
  have sourced : ∃ s, Source.ofConfig c.control = .ok s :=
    exists_source_eq_ok (Option.eq_none_iff_forall_not_mem.mpr
      fun p found => fine p (mem_problems_iff.mpr (.inl found)))
  have polls : 1 ≤ c.control.pollIntervalSecs :=
    Nat.pos_of_ne_zero fun zero => fine _ (mem_problems_iff.mpr (.inr (.inl ⟨zero, rfl⟩)))
  obtain ⟨sampler, hsampler⟩ := sampled
  obtain ⟨source, hsource⟩ := sourced
  exact ⟨grown, ⟨sampler, hsampler⟩, ⟨source, hsource⟩, polls, Nat.max_eq_left polls,
    fun identity d p f => Agent.eq_of_start_eq_error hsampler hsource,
    Agent.exists_start_eq_ok_iff hsampler hsource⟩

/-- With the negative zero for a ratio, padded levels, two spellings of the root,
and a file for a source, which is watched in an empty directory. -/
theorem start_of_no_problems_at_negative_zero :
    let c : Config :=
      { Config.default with
        control :=
          { ControlConfig.default with
            source := .file
            path := some "dial.toml"
            pollIntervalSecs := 1
            initialSampleRatio := ⟨0x8000000000000000⟩ }
        observability := { ObservabilityConfig.default with logLevel := " Warn " }
        loggers := .ofList [("ROOT", "error"), (" root", "INFO\t"), ("a.b", "trace")] }
    c.problems = [] ∧ (∃ t, c.tree = .ok t) ∧
      (∃ s, Sampler.new c.control.initialSampleRatio = .ok s) ∧
      (∃ s, Source.ofConfig c.control = .ok s) ∧
      Agent.pollInterval c.control = 1 ∧
      ∃ a, Agent.start c "1" .empty (.create (.new .warn)) = .ok a ∧
        a.source = .file "dial.toml" ∧ a.interval = 1 := by
  intro c
  have clean : c.problems = [] := by decide +kernel
  have file : Source.ofConfig c.control = .ok (.file "dial.toml") := rfl
  have watched : ∃ w, Agent.startWatch c.control .empty = .ok w := ⟨_, rfl⟩
  have quiet : ∃ s, Agent.listen c.admin = .ok s := ⟨none, rfl⟩
  obtain ⟨starts, yields, -, -⟩ := start_of_no_problems c
  obtain ⟨grown, sampled, sourced, -, polls, -, started⟩ := starts clean
  obtain ⟨a, start⟩ := (started "1" .empty (.create (.new .warn))).mpr ⟨watched, quiet⟩
  obtain ⟨-, source, interval⟩ := yields _ _ _ a start
  rw [file] at source
  exact ⟨clean, grown, sampled, sourced, polls, a, start, (Except.ok.inj source).symm,
    interval.trans polls⟩

end Config

end TelemetryControl
