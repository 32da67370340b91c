/-
TelemetryControl.Proofs.Control.Echo — the agent told what it reported.

A report shows what is in force as a snapshot. The proofs here follow one
invariant of a running control (`Settled`): the sampler is one that could have
been made at its ratio, the last snapshot applied shows that ratio, and the
pipeline is what this snapshot leaves on some layer. Each commit restores the
invariant, whatever it skips or refuses.

A settled control that commits the configuration it reports is unchanged
(`Settled.commit_effectiveConfig`). Since a written configuration is read back,
a payload that echoes the report is a cycle without effect
(`finish_echo`).
-/
import TelemetryControl.Proofs.Control.Run
import TelemetryControl.Proofs.Snapshot.RoundTrip

namespace TelemetryControl

open TelemetryControl.Text (octets)

/-! ## 1. Applying what is in force -/

/-- An apply looks at the entries of a snapshot alone. -/
theorem Pipeline.apply_congr (p : Pipeline) {s s' : Snapshot} (levels : s.logLevels = s'.logLevels)
    (sampling : s.samplingLogLevels = s'.samplingLogLevels) : p.apply s = p.apply s' := by
  unfold Pipeline.apply Registry.apply
  rw [levels, sampling]

/-- The snapshot that asks for nothing leaves a new pipeline as it is. -/
theorem Pipeline.create_apply_empty {t : LoggerTree} (rooted : t.Rooted) :
    (create t).apply .empty = create t := by
  have made := overlaid_create t
  refine (made.apply rooted .empty).eq_of_tables made rfl (NameTable.ext_get? (fun name => ?_))
  rw [registry_apply, Registry.get?_baseline_apply]
  rfl

/-- No logger is dropped when the same are asked for again. -/
theorem Registry.restored_eq_zero {r : Registry} {t : LoggerTree} {s : Snapshot}
    (same : (r.apply t s).registry = r) : (r.apply t s).outcome.restored = 0 := by
  have none : r.dropped (r.apply t s).registry.overrides.active = [] := by
    rw [same, dropped, List.filter_eq_nil_iff]
    intro name known
    simp [(NameTable.mem_names_iff _ _).mp known]
  show ((r.dropped (r.apply t s).registry.overrides.active).filter _).length = 0
  rw [none]
  rfl

namespace Control

/-! ## 2. Settled controls -/

/-- What the last commit left is what the next report shows. -/
structure Settled (t : LoggerTree) (c : Control) : Prop where
  sampler : Sampler.Reached c.sampler
  ratio : c.lastApplied.sampleRatio = some c.sampler.ratio
  inventory : c.lastApplied.availableLoggers = none
  /-- The last snapshot was applied to a layer on the first tree. -/
  applied : ∃ p, Pipeline.Overlaid t p ∧ c.pipeline = p.apply c.lastApplied

/-- Before its first cycle a control has as good as applied the empty snapshot. -/
theorem settled_new {t : LoggerTree} (rooted : t.Rooted) {sampler : Sampler}
    (reached : Sampler.Reached sampler) (format : PayloadFormat) (layout : PayloadLayout)
    (service instanceId : String) :
    Settled t ((new (Pipeline.create t) sampler format layout).withIdentity service instanceId) where
  sampler := reached
  ratio := rfl
  inventory := rfl
  applied := by
    refine ⟨Pipeline.create t, Pipeline.overlaid_create t, ?_⟩
    calc Pipeline.create t = (Pipeline.create t).apply .empty :=
          (Pipeline.create_apply_empty rooted).symm
      _ = _ := Pipeline.apply_congr _ rfl rfl

namespace Settled

variable {t : LoggerTree} {c : Control}

theorem overlaid (h : Settled t c) (rooted : t.Rooted) : Pipeline.Overlaid t c.pipeline := by
  obtain ⟨p, layer, applied⟩ := h.applied
  rw [applied]
  exact layer.apply rooted _

/-- Every commit settles. -/
theorem commit (h : Settled t c) (rooted : t.Rooted) (s : Snapshot) :
    Settled t (c.commit s).control where
  sampler := by
    show Sampler.Reached (commitRatio c.sampler s.sampleRatio).1
    cases s.sampleRatio with
    | none => exact h.sampler
    | some r => exact .asked r h.sampler
  ratio := rfl
  inventory := rfl
  applied := ⟨c.pipeline, h.overlaid rooted, Pipeline.apply_congr _ rfl rfl⟩

theorem run (h : Settled t c) (rooted : t.Rooted) (fetches : List Fetched) :
    Settled t (c.run fetches) :=
  run_induction h (fun _ s settled => settled.commit rooted s) fetches

/-- What is in force does not change when it is applied once more. -/
theorem pipeline_apply (h : Settled t c) (rooted : t.Rooted) :
    c.pipeline.apply c.report.effectiveConfig = c.pipeline := by
  obtain ⟨p, layer, applied⟩ := h.applied
  have same : c.pipeline.apply c.report.effectiveConfig = c.pipeline.apply c.lastApplied :=
    Pipeline.apply_congr _ rfl rfl
  rw [same, applied, layer.apply_apply rooted]

/-- The ratio in force is one that the sampler takes, and it takes it to the same
cut point. -/
theorem setRatio (h : Settled t c) : (c.sampler.setRatio c.sampler.ratio).1 = c.sampler := by
  rw [Sampler.setRatio_fst, if_pos h.sampler.inUnitInterval]
  exact (Sampler.reached_iff.mp h.sampler).2.symm

/-- **Committing what was reported changes nothing.** -/
theorem commit_effectiveConfig (h : Settled t c) (rooted : t.Rooted) :
    (c.commit c.report.effectiveConfig).control = c := by
  have sampler : (commitRatio c.sampler c.lastApplied.sampleRatio).1 = c.sampler := by
    rw [h.ratio]
    exact h.setRatio
  have shown : { c.report.effectiveConfig with
      sampleRatio := some c.sampler.ratio, availableLoggers := none } = c.lastApplied := by
    rw [← h.ratio, ← h.inventory]
    rfl
  calc (c.commit c.report.effectiveConfig).control
      = { c with
          pipeline := c.pipeline.apply c.report.effectiveConfig
          sampler := (commitRatio c.sampler c.lastApplied.sampleRatio).1
          lastApplied := { c.report.effectiveConfig with
            sampleRatio := some (commitRatio c.sampler c.lastApplied.sampleRatio).1.ratio
            availableLoggers := none } } := rfl
    _ = c := by rw [h.pipeline_apply rooted, sampler, shown]

/-- Nor does it restore any logger. -/
theorem restored_commit (h : Settled t c) (rooted : t.Rooted) :
    ∃ outcome, (c.commit c.report.effectiveConfig).result = .ok outcome ∧ outcome.restored = 0 := by
  have same : (c.pipeline.registry.apply c.pipeline.tree c.report.effectiveConfig).registry =
      c.pipeline.registry := congrArg Pipeline.registry (h.pipeline_apply rooted)
  exact ⟨_, rfl, Registry.restored_eq_zero same⟩

end Settled

/-! ## 3. Echoes -/

/-- The payload tells the agent the configuration that it reports: alone, or under
the name of its service beside those of others. -/
def Echoes (c : Control) (payload : List UInt8) : Prop :=
  match c.layout with
  | .single => payload = octets c.report.effectiveConfig.toJson.text
  | .perService =>
    ∃ services : NameTable Snapshot,
      services.get? c.service = some c.report.effectiveConfig ∧
        (∀ p ∈ services.toList, p.2.ReadsBack) ∧
        payload = octets (Snapshot.servicesJson services).text

variable {c : Control} {payload : List UInt8}

/-- An echo is read as the configuration that was reported. -/
theorem Echoes.decode_eq (echo : c.Echoes payload) (back : c.report.effectiveConfig.ReadsBack) :
    Snapshot.decode .json c.layout c.service payload = .ok ⟨c.report.effectiveConfig, []⟩ := by
  unfold Echoes at echo
  cases layout : c.layout with
  | single =>
    rw [layout] at echo
    rw [echo, Snapshot.decode, Snapshot.parse_toJson back]
    rfl
  | perService =>
    rw [layout] at echo
    obtain ⟨services, named, backs, rfl⟩ := echo
    exact Snapshot.parseForService_servicesJson backs named

/-- The settings of a control stay through a run. -/
theorem settings_run (c : Control) (fetches : List Fetched) :
    (c.run fetches).format = c.format ∧ (c.run fetches).layout = c.layout ∧
      (c.run fetches).service = c.service :=
  run_induction (motive := fun d =>
    d.format = c.format ∧ d.layout = c.layout ∧ d.service = c.service) ⟨rfl, rfl, rfl⟩
    (fun _ _ kept => kept) fetches

/-- **Echoing the report changes nothing.** Whatever a control went through, its
report shows the ratio in force, which is a number from 0 to 1, and the
loggers that there were at the start. A payload that sends the reported
configuration back, in the layout of the control, is a cycle that succeeds,
restores no logger and leaves the control as it was, down to the report
after it. Only the reader of numbers has to do its part, which is to read the
ratio as it was written. -/
theorem finish_echo (root : Severity) (edits : List LoggerTree.Edit) {sampler : Sampler}
    (reached : Sampler.Reached sampler) (format : PayloadFormat) (layout : PayloadLayout)
    (service instanceId : String) (fetches : List Fetched) :
    let t := LoggerTree.built root edits
    let c := ((new (Pipeline.create t) sampler format layout).withIdentity service
      instanceId).run fetches
    let ratio := c.sampler.ratio
    (c.report.effectiveConfig.sampleRatio = some ratio ∧
        ratio.isSpecial = false ∧ 0 ≤ ratio.toRat ∧ ratio.toRat ≤ 1 ∧
        c.report.effectiveConfig.availableLoggers = some (Registry.create t).available) ∧
      (format = .json → ratio.ReadsBack → ∀ payload, c.Echoes payload →
        (c.finish (.ok payload)).control = c ∧
          ∃ outcome, (c.finish (.ok payload)).result = .ok outcome ∧ outcome.restored = 0) := by
  intro t c ratio
  have rooted : t.Rooted := LoggerTree.rooted_built root edits
  have settled : Settled t c := (settled_new rooted reached format layout service instanceId).run
    rooted fetches
  have shown : c.report.effectiveConfig.sampleRatio = some ratio := settled.ratio
  obtain ⟨finite, nonneg, atMost⟩ :=
    (Binary64.inUnitInterval_iff ratio).mp settled.sampler.inUnitInterval
  refine ⟨⟨shown, finite, nonneg, atMost, ?inventory⟩, ?echo⟩
  case inventory => exact congrArg some (settled.overlaid rooted).available
  case echo =>
    intro json back payload echo
    have formatted : c.format = .json := (settings_run _ fetches).1.trans json
    have decoded := echo.decode_eq (fun r hr => by
      rw [shown, Option.mem_some_iff] at hr
      exact hr ▸ back)
    have finished : (c.finish (.ok payload)).control = (c.commit c.report.effectiveConfig).control ∧
        (c.finish (.ok payload)).result = (c.commit c.report.effectiveConfig).result := by
      rw [finish, formatted, decoded]
      exact ⟨rfl, rfl⟩
    rw [finished.1, finished.2]
    exact ⟨settled.commit_effectiveConfig rooted, settled.restored_commit rooted⟩

/-- After a cycle that failed, and one with an entry for no logger there is and a
ratio of 2. -/
theorem finish_echo_after_refusals :
    let sampler : Sampler := ⟨⟨0x3FD0000000000000⟩, 2305843009213693952⟩
    let received : Snapshot :=
      ⟨[⟨"app", "debug"⟩, ⟨"nowhere", "warn"⟩], [], some ⟨0x4000000000000000⟩, none⟩
    let start := (new (Pipeline.create (LoggerTree.built .info [.register "app" none])) sampler
      .json .single).withIdentity "shop" "1"
    let c := start.run [.error (.transport "refused"), .ok (octets received.toJson.text)]
    let echo := octets c.report.effectiveConfig.toJson.text
    (Sampler.Reached sampler ∧ c.sampler.ratio.ReadsBack ∧ c.Echoes echo) ∧
      (c.finish (.ok echo)).control = c := by
  intro sampler received start c echo
  have reached : Sampler.Reached sampler :=
    Sampler.reached_iff.mpr ⟨by decide +kernel, by decide +kernel⟩
  have decoded : start.received? (.ok (octets received.toJson.text)) = some received := by
    have parsed : Snapshot.parse .json (octets received.toJson.text) = .ok received :=
      Snapshot.parse_toJson (fun r hr => by cases hr; decide +kernel)
    show (Snapshot.decode .json .single "shop" _).toOption.map _ = _
    rw [Snapshot.decode, parsed]
    rfl
  have refused : lastRatio? [received] = none := by decide +kernel
  have kept : c.sampler = sampler := by
    show (start.run _).sampler = _
    rw [run_eq_commitAll, List.filterMap_cons_none rfl, List.filterMap_cons_some decoded,
      List.filterMap_nil, sampler_commitAll, refused]
    rfl
  have back : c.sampler.ratio.ReadsBack := by
    rw [kept]
    decide +kernel
  have echoes : c.Echoes echo := by
    have single : c.layout = .single := (settings_run start _).2.1
    rw [Echoes, single]
  have unchanged := (finish_echo .info [.register "app" none] reached .json .single "shop" "1"
    [.error (.transport "refused"), .ok (octets received.toJson.text)]).2 rfl back echo echoes
  exact ⟨⟨reached, back, echoes⟩, unchanged.1⟩

end Control

end TelemetryControl
