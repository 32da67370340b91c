/-
TelemetryControl.Proofs.Control.Run — what a run of control cycles leaves.

Whether a cycle fails is settled by what was fetched and by three settings
that no cycle changes, so a run comes to the list of snapshots that were
received (`run_eq_commitAll`). A commit then works on two things that know
nothing of each other: the pipeline takes the entries (`pipeline_commitAll`),
and the sampler takes the ratio if it is one it can take
(`sampler_commitAll`).

The main result is `run_forgets_failures`: cycles that fail might as well not
have been, the tables are those of the last snapshot, and the sampler is at
the last ratio in range.
-/
import TelemetryControl.Control
import TelemetryControl.Proofs.Registry.Overlay
import TelemetryControl.Proofs.Sampling.Threshold

namespace TelemetryControl

/-- The ratio of a snapshot that a sampler takes. -/
def Snapshot.acceptedRatio? (s : Snapshot) : Option Binary64 :=
  s.sampleRatio.filter (fun r => decide r.InUnitInterval)

/-- The last ratio of some snapshots that a sampler takes. -/
def lastRatio? (snapshots : List Snapshot) : Option Binary64 :=
  snapshots.reverse.findSome? Snapshot.acceptedRatio?

@[simp] theorem lastRatio?_concat (snapshots : List Snapshot) (s : Snapshot) :
    lastRatio? (snapshots ++ [s]) = s.acceptedRatio?.or (lastRatio? snapshots) := by
  unfold lastRatio?
  rw [List.reverse_concat, List.findSome?_cons]
  cases s.acceptedRatio? <;> simp

/-- The sampler at a ratio it takes, or as it was. -/
def Sampler.atRatio (s : Sampler) : Option Binary64 → Sampler
  | some r => ⟨r, cutPointOf r⟩
  | none => s

theorem Sampler.atRatio_atRatio (s : Sampler) (earlier later : Option Binary64) :
    (s.atRatio earlier).atRatio later = s.atRatio (later.or earlier) := by
  cases later <;> rfl

theorem Pipeline.run_run (p : Pipeline) (earlier later : List Snapshot) :
    (p.run earlier).run later = p.run (earlier ++ later) := by
  simp [run]

namespace Control

/-- What a cycle is given: octets, or the fault that kept it from them. -/
abbrev Fetched : Type := Except Fault (List UInt8)

/-- The snapshot that a cycle receives, none when nothing could be fetched or
what was fetched holds no snapshot. -/
def received? (c : Control) : Fetched → Option Snapshot
  | .error _ => none
  | .ok payload =>
    (Snapshot.decode c.format c.layout c.service payload).toOption.map Decoded.snapshot

/-- The control after some cycles. -/
def run (c : Control) (fetches : List Fetched) : Control :=
  fetches.foldl (fun c fetched => (c.finish fetched).control) c

/-- What is left of a run without the cycles that fail in it. -/
def successful (c : Control) : List Fetched → List Fetched
  | [] => []
  | fetched :: rest =>
    let done := c.finish fetched
    match done.result with
    | .ok _ => fetched :: done.control.successful rest
    | .error _ => done.control.successful rest

/-- The control after some commits. -/
def commitAll (c : Control) (snapshots : List Snapshot) : Control :=
  snapshots.foldl (fun c s => (c.commit s).control) c

variable (c : Control)

/-! ## 1. One cycle -/

@[simp] theorem pipeline_new (p : Pipeline) (s : Sampler) (format : PayloadFormat)
    (layout : PayloadLayout) : (new p s format layout).pipeline = p := rfl

@[simp] theorem pipeline_withIdentity (service instanceId : String) :
    (c.withIdentity service instanceId).pipeline = c.pipeline := rfl

/-- A snapshot is received when a payload was fetched that decodes. -/
theorem received?_eq_some_iff {c : Control} {fetched : Fetched} {s : Snapshot} :
    c.received? fetched = some s ↔
      ∃ payload decoded, fetched = .ok payload ∧
        Snapshot.decode c.format c.layout c.service payload = .ok decoded ∧
        decoded.snapshot = s := by
  cases fetched with
  | error f => simp [received?]
  | ok payload =>
    simp only [received?]
    cases result : Snapshot.decode c.format c.layout c.service payload with
    | error f => simp [Except.toOption, result]
    | ok decoded => simp [Except.toOption, result]

/-- A cycle commits what it receives, and nothing else happens in it. -/
theorem control_finish (fetched : Fetched) :
    (c.finish fetched).control =
      match c.received? fetched with
      | some s => (c.commit s).control
      | none => c := by
  cases fetched with
  | error f => rfl
  | ok payload =>
    simp only [finish, received?]
    cases Snapshot.decode c.format c.layout c.service payload <;> rfl

/-- A cycle fails exactly when it receives no snapshot. -/
theorem result_finish (fetched : Fetched) :
    (∃ outcome, (c.finish fetched).result = .ok outcome) ↔ (c.received? fetched).isSome = true := by
  cases fetched with
  | error f => simp [finish, received?]
  | ok payload =>
    simp only [finish, received?]
    cases Snapshot.decode c.format c.layout c.service payload with
    | error f => simp [Except.toOption]
    | ok decoded => exact iff_of_true ⟨_, rfl⟩ rfl

/-- No cycle changes what counts as a snapshot. -/
@[simp] theorem received?_finish (fetched : Fetched) :
    (c.finish fetched).control.received? = c.received? := by
  rw [control_finish]
  cases c.received? fetched <;> rfl

theorem pipeline_commit (s : Snapshot) :
    (c.commit s).control.pipeline = c.pipeline.apply s := rfl

/-- A commit moves the sampler when the ratio is in range, whatever became of the
entries. -/
theorem sampler_commit (s : Snapshot) :
    (c.commit s).control.sampler = c.sampler.atRatio s.acceptedRatio? := by
  show (commitRatio c.sampler s.sampleRatio).1 = _
  cases ratio : s.sampleRatio with
  | none => simp [commitRatio, Snapshot.acceptedRatio?, ratio, Sampler.atRatio]
  | some r =>
    by_cases inside : r.InUnitInterval <;>
      simp [commitRatio, Sampler.setRatio_fst, Snapshot.acceptedRatio?, ratio, inside,
        Sampler.atRatio, Option.filter]

/-! ## 2. Runs -/

@[simp] theorem run_cons (fetched : Fetched) (rest : List Fetched) :
    c.run (fetched :: rest) = (c.finish fetched).control.run rest := rfl

@[simp] theorem commitAll_concat (snapshots : List Snapshot) (s : Snapshot) :
    c.commitAll (snapshots ++ [s]) = ((c.commitAll snapshots).commit s).control := by
  simp [commitAll]

/-- A run commits the snapshots it receives, in order. -/
theorem run_eq_commitAll (fetches : List Fetched) :
    c.run fetches = c.commitAll (fetches.filterMap c.received?) := by
  induction fetches generalizing c with
  | nil => rfl
  | cons fetched rest ih =>
    rw [run_cons, ih, received?_finish, control_finish, List.filterMap_cons]
    cases c.received? fetched <;> rfl

/-- What every commit keeps, every run keeps. -/
theorem run_induction {motive : Control → Prop} {c : Control} (start : motive c)
    (step : ∀ c s, motive c → motive (c.commit s).control) (fetches : List Fetched) :
    motive (c.run fetches) := by
  rw [run_eq_commitAll]
  exact List.foldlRecOn _ _ start (fun c h s _ => step c s h)

/-- The cycles that do not fail are those that receive a snapshot. -/
theorem successful_eq_filter (fetches : List Fetched) :
    c.successful fetches = fetches.filter (fun f => (c.received? f).isSome) := by
  induction fetches generalizing c with
  | nil => rfl
  | cons fetched rest ih =>
    have succeeds := c.result_finish fetched
    rw [successful, List.filter_cons]
    cases result : (c.finish fetched).result with
    | ok outcome =>
      rw [if_pos (succeeds.mp ⟨outcome, result⟩)]
      simp only [ih, received?_finish]
    | error f =>
      rw [if_neg (fun received => by simpa [result] using succeeds.mpr received)]
      simp only [ih, received?_finish]

theorem pipeline_commitAll (snapshots : List Snapshot) :
    (c.commitAll snapshots).pipeline = c.pipeline.run snapshots := by
  induction snapshots using List.reverseRecOn with
  | nil => rfl
  | append_singleton snapshots s ih =>
    rw [commitAll_concat, pipeline_commit, ih, Pipeline.run_concat]

theorem sampler_commitAll (snapshots : List Snapshot) :
    (c.commitAll snapshots).sampler = c.sampler.atRatio (lastRatio? snapshots) := by
  induction snapshots using List.reverseRecOn with
  | nil => rfl
  | append_singleton snapshots s ih =>
    rw [commitAll_concat, sampler_commit, ih, lastRatio?_concat, Sampler.atRatio_atRatio]

/-- The pipeline of a run is that of the snapshots it receives. -/
theorem pipeline_run (fetches : List Fetched) :
    (c.run fetches).pipeline = c.pipeline.run (fetches.filterMap c.received?) := by
  rw [run_eq_commitAll, pipeline_commitAll]

/-! ## 3. Failures leave no trace -/

/-- **Cycles that fail might as well not have been.** The cycles that fail are
those that receive no snapshot. Take them away, and a run ends with the very
same control. What it ends with is read off the snapshots received: the levels
are those that the last one leaves on the first tree, and the sampler is at
the last ratio in range, each whatever became of the other. -/
theorem run_forgets_failures (root : Severity) (edits : List LoggerTree.Edit)
    (applied : List Snapshot) (sampler : Sampler) (format : PayloadFormat)
    (layout : PayloadLayout) (service instanceId : String) (earlier fetches : List Fetched) :
    let t := LoggerTree.built root edits
    let p := (Pipeline.create t).run applied
    let c := ((new p sampler format layout).withIdentity service instanceId).run earlier
    let snapshots := fetches.filterMap c.received?
    c.successful fetches = fetches.filter (fun f => (c.received? f).isSome) ∧
      c.run (c.successful fetches) = c.run fetches ∧
      (c.run fetches).sampler =
        (match lastRatio? snapshots with
          | some r => ⟨r, Sampler.cutPointOf r⟩
          | none => c.sampler) ∧
      (match snapshots.getLast? with
        | some last =>
          (c.run fetches).pipeline.registry.overrides =
              ((Pipeline.create t).apply last).registry.overrides ∧
            (c.run fetches).pipeline.tree = ((Pipeline.create t).apply last).tree
        | none => c.run fetches = c) := by
  intro t p c snapshots
  have rooted : t.Rooted := LoggerTree.rooted_built root edits
  have first : Pipeline.Overlaid t (Pipeline.create t) := Pipeline.overlaid_create t
  have layer (received : List Snapshot) : Pipeline.Overlaid t (c.pipeline.run received) := by
    show Pipeline.Overlaid t ((run _ earlier).pipeline.run received)
    rw [pipeline_run]
    simp only [p, pipeline_withIdentity, pipeline_new, Pipeline.run_run]
    exact Pipeline.overlaid_run rooted _
  have final : c.run fetches = c.commitAll snapshots := c.run_eq_commitAll fetches
  refine ⟨c.successful_eq_filter fetches, ?failures, ?ratio, ?levels⟩
  case failures =>
    have received : (c.successful fetches).filterMap c.received? = snapshots := by
      rw [successful_eq_filter, List.filterMap_filter]
      refine List.filterMap_congr (fun fetched _ => ?_)
      cases c.received? fetched <;> rfl
    rw [run_eq_commitAll, received, final]
  case ratio =>
    rw [final, sampler_commitAll]
    cases lastRatio? snapshots <;> rfl
  case levels =>
    rw [final]
    clear_value snapshots
    obtain rfl | ⟨before, last, rfl⟩ := snapshots.eq_nil_or_concat'
    · rfl
    · have overrides := (layer before).overrides_apply_eq first (s := last)
      have tree := ((layer before).apply rooted last).tree_eq (first.apply rooted last)
        (congrArg Overrides.active overrides)
      rw [List.getLast?_concat]
      simp only [pipeline_commitAll, Pipeline.run_concat]
      exact ⟨overrides, tree⟩

end Control

end TelemetryControl
