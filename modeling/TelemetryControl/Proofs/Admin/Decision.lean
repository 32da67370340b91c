/-
TelemetryControl.Proofs.Admin.Decision — what operators are shown is what the gate does.

An operator who asks what is decided for a logger writes its name as in a
configuration, and the answer is about the logger that the name means. The gate
looks the name of a record up as it is. The two could differ on a spelling of
ROOT, and they do not, for an invariant of the published tables: an entry gets
into a table only under the name that it means, and only if that logger is
available (`Published`). Every apply publishes such tables, whatever loggers it
finds (`Reached.publishedTables`).

The main result is `shown_decision_is_the_gates`.
-/
import TelemetryControl.Admin
import TelemetryControl.Proofs.LoggerName.Spelling
import TelemetryControl.Proofs.Registry.Overlay
import TelemetryControl.Proofs.Text.Percent

namespace TelemetryControl

/-! ## 1. Published tables -/

/-- Every key of a table means itself and is available. -/
def Published (available table : NameTable Severity) : Prop :=
  ∀ key q, table.get? key = some q →
    LoggerName.normalize key = key ∧ available.contains key = true

namespace Registry

theorem published_ofList_accepted (r : Registry) (entries : List LevelEntry) :
    Published r.available (NameTable.ofList (r.accepted entries)) := by
  intro key q found
  rw [get?_ofList_accepted] at found
  refine ⟨?itself, contains_of_lastThreshold? found⟩
  obtain ⟨e, -, asked⟩ := List.exists_of_findSome?_eq_some found
  unfold LevelEntry.threshold? at asked
  split at asked
  · next meant => rw [← meant.1, LoggerName.normalize_normalize]
  · cases asked

/-- Both tables of a registry are published ones. -/
structure PublishedTables (r : Registry) : Prop where
  active : Published r.available r.overrides.active
  sampling : Published r.available r.overrides.sampling

theorem publishedTables_create {β : Type} [LoggerBackend β] (b : β) :
    (create b).PublishedTables where
  active := fun _ _ found => by cases found
  sampling := fun _ _ found => by cases found

/-- The registries that a sequence of applies may leave. Loggers may have come and
levels may have changed between any two of them. -/
inductive Reached (β : Type) [LoggerBackend β] : Registry → Prop where
  | create (b : β) : Reached β (create b)
  | apply {r : Registry} (before : Reached β r) (b : β) (s : Snapshot) :
    Reached β (r.apply b s).registry

/-- **Every apply publishes such tables**, over whatever loggers. -/
theorem Reached.publishedTables {β : Type} [LoggerBackend β] {r : Registry}
    (reached : r.Reached β) : r.PublishedTables := by
  cases reached with
  | create b => exact publishedTables_create b
  | @apply before _ b s =>
    exact ⟨before.published_ofList_accepted s.logLevels,
      before.published_ofList_accepted s.samplingLogLevels⟩

/-- What is decided for a logger is decided for what its name means. -/
theorem PublishedTables.decision_normalize {r : Registry} (h : r.PublishedTables) {name : String}
    (unpadded : Text.Unpadded name) : r.decision (LoggerName.normalize name) = r.decision name := by
  have active :=
    LoggerName.effective_normalize (fun key q found => (h.active key q found).1) unpadded
  have sampling :=
    LoggerName.effective_normalize (fun key q found => (h.sampling key q found).1) unpadded
  exact congrArg₂ Decision.mk active sampling

end Registry

theorem Pipeline.reached_run (t : LoggerTree) (history : List Snapshot) :
    ((create t).run history).registry.Reached LoggerTree :=
  List.foldlRecOn (motive := fun p : Pipeline => p.registry.Reached LoggerTree) history _
    (.create t) (fun p reached s _ => reached.apply p.tree s)

namespace Admin

/-! ## 2. Asking for a decision -/

/-- A request asks what is decided for a logger of this name. -/
structure AsksFor (r : Request) (name : String) : Prop where
  get : r.method = "GET"
  routed : ∃ segment, route? (path r) = some (.decision segment) ∧
    Text.ofOctets? (Text.Percent.decode (Text.octets segment)) = some name

/-- An answer shows a decision: its members for the two severities are those of the
decision. -/
structure Shows (d : Decision) (answer : Response) : Prop where
  status : answer.status = 200
  severity : answer.body.bind (·.member? "severity") = some (optionalSeverity d.severity)
  samplingSeverity :
    answer.body.bind (·.member? "samplingSeverity") = some (optionalSeverity d.samplingSeverity)

theorem optionalSeverity_injective {s s' : Option Severity}
    (same : optionalSeverity s = optionalSeverity s') : s = s' := by
  have names {v v' : Severity} (same : v.name = v'.name) : v = v' := by
    cases v <;> cases v' <;> first | rfl | exact absurd same (by decide)
  cases s <;> cases s' <;> simp_all [optionalSeverity, Json.str]
  exact names same

/-- An answer shows one decision at most. -/
theorem Shows.unique {d d' : Decision} {answer : Response} (h : Shows d answer)
    (h' : Shows d' answer) : d = d' := by
  have severity := optionalSeverity_injective (Option.some.inj (h.severity.symm.trans h'.severity))
  have samplingSeverity := optionalSeverity_injective
    (Option.some.inj (h.samplingSeverity.symm.trans h'.samplingSeverity))
  exact congrArg₂ Decision.mk severity samplingSeverity

theorem shows_decisionView (s : State) (name : String) :
    Shows (s.registry.decision (LoggerName.normalize name)) ⟨200, some (decisionView s name)⟩ where
  status := rfl
  severity := by simp [decisionView, Json.record, Json.member?]
  samplingSeverity := by simp [decisionView, Json.record, Json.member?]

/-- An authorized request is shown what is decided for what the name means. -/
theorem shows_handle {key : String} {s : State} {r : Request} {name : String}
    (opened : authorized key r.authorization = true) (asks : AsksFor r name) :
    Shows (s.registry.decision (LoggerName.normalize name)) (handle key s r).1 := by
  obtain ⟨segment, routed, spelt⟩ := asks.routed
  have answer : (handle key s r).1 = ⟨200, some (decisionView s name)⟩ := by
    simp only [handle, if_pos opened, dispatch, routed, if_pos asks.get, view, spelt]
  rw [answer]
  exact shows_decisionView s name

/-- On published tables the name can as well be looked up as it is. -/
theorem shows_handle_of_unpadded {key : String} {registry : Registry} {sampler : Sampler}
    {phase : LoopPhase} {r : Request} {name : String} (tables : registry.PublishedTables)
    (unpadded : Text.Unpadded name) (opened : authorized key r.authorization = true)
    (asks : AsksFor r name) :
    Shows (registry.decision name) (handle key ⟨registry, sampler, phase⟩ r).1 := by
  rw [← tables.decision_normalize unpadded]
  exact shows_handle (s := ⟨registry, sampler, phase⟩) opened asks

/-! ## 3. Every logger can be asked for -/

/-- A target of a path alone is that path. -/
theorem path_eq_target {r : Request} {rest : List Char} (starts : r.target.toList = '/' :: rest)
    (plain : ∀ c ∈ rest, endsPath c = false) : path r = r.target := by
  have whole : pathChars r.target.toList = r.target.toList := by
    have all : ∀ c ∈ rest, (!endsPath c) = true := fun c member => by simp [plain c member]
    rw [starts, pathChars, List.takeWhile_eq_self_iff.mpr all]
  rw [path, whole, String.ofList_toList]

/-- A target on the path of decisions is that path if its segment does not end it. -/
theorem path_decision {segment : List Char} (plain : ∀ c ∈ segment, endsPath c = false)
    (method : String) (authorization : List (List UInt8)) :
    path ⟨method, "/admin/decision/" ++ String.ofList segment, authorization⟩ =
      "/admin/decision/" ++ String.ofList segment := by
  have starts : ("/admin/decision/" ++ String.ofList segment).toList =
      '/' :: ("admin/decision/".toList ++ segment) := by simp
  refine path_eq_target starts fun c member => ?_
  rcases List.mem_append.mp member with front | behind
  · have none : "admin/decision/".toList.any endsPath = false := by decide
    exact Bool.eq_false_of_not_eq_true (List.any_eq_false.mp none c front)
  · exact plain c behind

/-- Behind the path of decisions one piece names the logger. -/
theorem route?_decision {segment : List Char} (onePiece : '/' ∉ segment) (given : segment ≠ []) :
    route? ("/admin/decision/" ++ String.ofList segment) =
      some (.decision (String.ofList segment)) := by
  have written : ("/admin/decision/" ++ String.ofList segment).toList =
      [] ++ '/' :: ("admin".toList ++ '/' :: ("decision".toList ++ '/' :: segment)) := by
    simp
  have pieces : (Text.pieces '/' ("/admin/decision/" ++ String.ofList segment).toList).map
      String.ofList = ["", "admin", "decision", String.ofList segment] := by
    rw [written, Text.pieces_append (by decide), Text.pieces_append (by decide),
      Text.pieces_append (by decide), Text.pieces_of_notMem onePiece]
    simp
  have named : String.ofList segment ≠ "" := fun none => given (by simpa using none)
  rw [route?, pieces]
  exact if_neg named

/-- The characters that mean something in a target. -/
def marks : List Char := ['%', '/', '?', '#']

/-- The target that asks for a logger, some of the characters of its name escaped. -/
def decisionTarget (special : Char → Bool) (name : String) : String :=
  "/admin/decision/" ++ String.ofList (Text.Percent.encode special name.toList)

/-- **Every logger but the root can be asked for**, by its name with the marks of a
target escaped and any other characters escaped or not. -/
theorem asksFor_decisionTarget {special : Char → Bool} (escaped : ∀ c ∈ marks, special c = true)
    {name : String} (named : name ≠ LoggerName.root) (authorization : List (List UInt8)) :
    AsksFor ⟨"GET", decisionTarget special name, authorization⟩ name where
  get := rfl
  routed := by
    have given : Text.Percent.encode special name.toList ≠ [] :=
      Text.Percent.encode_ne_nil (fun none => named (String.toList_inj.mp none))
    have absent (c : Char) (mark : c ∈ marks) (other : c ≠ '%' ∧ c.isAlphanum = false) :
        c ∉ Text.Percent.encode special name.toList :=
      Text.Percent.notMem_encode (escaped c mark) other.1 other.2 name.toList
    have plain : ∀ c ∈ Text.Percent.encode special name.toList, endsPath c = false := by
      intro c member
      have notQuery : c ≠ '?' := fun same => absent '?' (by decide) (by decide) (same ▸ member)
      have notFragment : c ≠ '#' := fun same => absent '#' (by decide) (by decide) (same ▸ member)
      simp [endsPath, notQuery, notFragment]
    refine ⟨String.ofList (Text.Percent.encode special name.toList), ?routed, ?spelt⟩
    case routed =>
      have whole := path_decision plain "GET" authorization
      exact (congrArg route? whole).trans
        (route?_decision (absent '/' (by decide) (by decide)) given)
    case spelt =>
      rw [Text.octets_ofList, Text.Percent.decode_encode (escaped '%' (by decide)),
        Text.ofOctets?_encode, String.ofList_toList]

/-! ## 4. The gate's decision -/

/-- **What operators are shown is what the gate decides by.** After any sequence of
applies, an authorized request that asks for a logger whose name has no blanks
at its ends is shown a decision, ROOT in any case included; it is the one that
the tables give for the name as it is, and the gate admits a record of that
logger exactly if that decision does. Every logger but the root, which has no
name to put into a target, can be asked for. -/
theorem shown_decision_is_the_gates {β : Type} [LoggerBackend β] {p : Pipeline}
    (reached : p.registry.Reached β) {name : String} (unpadded : Text.Unpadded name) :
    (∀ key sampler phase r, authorized key r.authorization = true → AsksFor r name →
      ∃ d, Shows d (handle key ⟨p.registry, sampler, phase⟩ r).1) ∧
    (∀ key sampler phase r d, authorized key r.authorization = true → AsksFor r name →
      Shows d (handle key ⟨p.registry, sampler, phase⟩ r).1 →
        d = p.registry.decision name ∧
          ∀ s sampled, p.admits name s sampled = d.admits s sampled) ∧
    (name ≠ LoggerName.root → ∀ authorization, ∃ target,
      AsksFor ⟨"GET", target, authorization⟩ name) := by
  have tables : p.registry.PublishedTables := reached.publishedTables
  refine ⟨?answered, ?same, ?asked⟩
  case answered =>
    intro key sampler phase r opened asks
    exact ⟨p.registry.decision name, shows_handle_of_unpadded tables unpadded opened asks⟩
  case same =>
    intro key sampler phase r d opened asks shows
    have is : d = p.registry.decision name :=
      shows.unique (shows_handle_of_unpadded tables unpadded opened asks)
    refine ⟨is, fun s sampled => ?_⟩
    rw [is, Pipeline.admits]
  case asked =>
    intro named authorization
    have escaped : ∀ c ∈ marks, (fun _ => true : Char → Bool) c = true := fun _ _ => rfl
    exact ⟨_, asksFor_decisionTarget escaped named authorization⟩

/-- A logger is called ROOT, and the root itself has an override; an operator asks for a
spelling of ROOT. -/
theorem shown_decision_is_the_gates_for_root :
    let t := LoggerTree.built .warn [.register "ROOT" (some .error)]
    let history : List Snapshot := [⟨[⟨" Root ", "DEBUG"⟩], [⟨"root", "INFO"⟩], none, none⟩]
    let r : Request := ⟨"GET", "/admin/decision/RooT?all", [Text.octets "Bearer k"]⟩
    let p := (Pipeline.create t).run history
    (p.registry.Reached LoggerTree ∧ Text.Unpadded "RooT" ∧
      authorized "k" r.authorization = true ∧ AsksFor r "RooT") ∧
    ∀ sampler phase, ∃ d, Shows d (handle "k" ⟨p.registry, sampler, phase⟩ r).1 ∧
      d = ⟨some .debug, some .info⟩ ∧
        ∀ s sampled, p.admits "RooT" s sampled = d.admits s sampled := by
  intro t history r p
  have reached : p.registry.Reached LoggerTree := Pipeline.reached_run t history
  have unpadded : Text.Unpadded "RooT" := by decide
  have opened : authorized "k" r.authorization = true := by decide +kernel
  have asks : AsksFor r "RooT" :=
    ⟨rfl, "RooT", by decide +kernel, by decide +kernel⟩
  have decided : p.registry.decision "RooT" = ⟨some .debug, some .info⟩ := by decide +kernel
  obtain ⟨answered, same, -⟩ := shown_decision_is_the_gates reached unpadded
  refine ⟨⟨reached, unpadded, opened, asks⟩, fun sampler phase => ?_⟩
  obtain ⟨d, shows⟩ := answered "k" sampler phase r opened asks
  obtain ⟨is, gate⟩ := same "k" sampler phase r d opened asks shows
  exact ⟨d, shows, is.trans decided, gate⟩

end Admin

end TelemetryControl
